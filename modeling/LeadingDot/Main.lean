import LeadingDot.Files.Image
import LeadingDot.Program

/-!
# The command line

The program works on the disk that an image on its standard input describes, trees of the
sources included. It writes its report to the standard output, in colours on a terminal,
and all else to the standard error. The disk lasts as long as the program: who wants to keep
what a command writes on it takes it from the `Session`.
-/

namespace LeadingDot

/-- Reads lines until a stream ends. -/
partial def readLines (stream : IO.FS.Stream) (seen : Array String) : IO (List String) := do
  let line ← stream.getLine
  if line.isEmpty then return seen.toList
  readLines stream (seen.push (String.ofList (line.toList.filter (· != '\n'))))

end LeadingDot

open LeadingDot in
/-- Runs the program and returns the number of its exit code. -/
def main (words : List String) : IO UInt32 := do
  let output ← IO.getStdout
  let errors ← IO.getStderr
  match DiskImage.ofLines (← readLines (← IO.getStdin) #[]) with
  | .error fault =>
    errors.putStrLn ("Error: " ++ fault.message)
    return ExitCode.error.toNat.toUInt32
  | .ok image =>
    let session := Session.run image.disk image.base words
    output.putStr (session.output.render (← output.isTty))
    errors.putStr session.errors
    return session.exit.toNat.toUInt32
