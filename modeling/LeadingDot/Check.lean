import LeadingDot.Result
import LeadingDot.Scan
import LeadingDot.Suppression.Comment

/-!
# Checking one source

A source is scanned for missing dots, and the suppressions in its comments are applied.
Suppressions are read from the text as a whole, with replacement characters where the
bytes are not well formed; the scan works on the bytes as they are.
-/

namespace LeadingDot

/-- The suppressions in a source. -/
def ParsedSource.suppressions (parsed : ParsedSource) : List Suppression :=
  Suppression.ofContents parsed.path parsed.source.contentsLossy

/-- The result of a run over a single parsed source. -/
def check (config : RuleConfig) (parsed : ParsedSource) : Result :=
  { Result.filter { violations := scan parsed config } parsed.suppressions with scanned := 1 }

end LeadingDot
