import LeadingDot.Suppression
import LeadingDot.Text.Blank
import LeadingDot.Text.Lines
import LeadingDot.Text.Pattern

/-!
# Suppression comments

A suppression is written as a comment: `dotcheck:ignore`, `dotcheck:ignore-next-line` or
`dotcheck:ignore-file`, then the rule, and after a dash the reason. A line comment runs
to the end of its line and is tried first; a block comment ends at its closing mark.

A plain `ignore` covers the next line if nothing stands before it on its line, and its
own line otherwise. A suppression of the whole file has to stand in the first lines or
in the header, the blank lines, comments and imports that a file starts with.
-/

namespace LeadingDot

namespace Suppression

open Text (Pattern)

/-- A character that is not blank. -/
def isInk (c : Char) : Bool := !Text.isBlank c

/-- Any number of blanks, as many as possible first. -/
def blankRun : Pattern := .many true Text.isBlank

/-- The word of a directive: group 1. -/
def wordPattern : Pattern :=
  .group 1 (.seq (.literal "ignore")
    (.optional (.either (.literal "-file") (.literal "-next-line"))))

/-- What both comments share after their opening mark: the directive word, then the
rule as group 2. -/
def directivePattern : Pattern :=
  .sequence [blankRun, .literal "dotcheck:", wordPattern, .some1 Text.isBlank,
    .group 2 (.some1 isInk), blankRun]

/-- The reason in a line comment, group 3: after a dash the rest of the line. -/
def lineReasonPattern : Pattern :=
  .optional (.sequence [.literal "-", blankRun, .group 3 (.many true (· != '\n'))])

/-- A directive in a line comment. -/
def linePattern : Pattern :=
  .sequence [.literal "//", directivePattern, lineReasonPattern]

/-- A directive in a block comment. The reason, group 3, ends at the first closing mark. -/
def blockPattern : Pattern :=
  .sequence [.literal "/*", directivePattern,
    .optional (.sequence [.literal "-", blankRun, .group 3 (.many false (· != '\n'))]),
    blankRun, .literal "*/"]

/-- A suppression file directive counts up to this line even after the header. -/
def headerLines : Nat := 10

/-- Whether a line without its outer blanks may stand in the header of a file. -/
def isHeaderLine (line : List Char) : Bool :=
  line.isEmpty || ["//", "/*", "*", "import "].any fun start => start.toList.isPrefixOf line

/-- The coverage that a directive word asks for, when `before` stands before the comment. -/
def coverageOf? (word before : List Char) : Option Coverage :=
  if word = "ignore-file".toList then some .file
  else if word = "ignore-next-line".toList then some .nextLine
  else if word = "ignore".toList then
    some (if Text.allBlank before then .nextLine else .line)
  else none

/-- The suppression that a match of one of the patterns states on a line. A directive
for the file is refused below the header unless the line is among the first ones. -/
def ofMatch? (file : String) (number : Nat) (inHeader : Bool) (found : Pattern.Match) :
    Option Suppression :=
  match coverageOf? ((found.groups.get? 1).getD []) found.before with
  | none => none
  | some coverage =>
    if coverage = .file ∧ ¬ inHeader ∧ headerLines < number then none
    else some
      { rule := String.ofList ((found.groups.get? 2).getD [])
        reason := String.ofList (Text.trim ((found.groups.get? 3).getD []))
        file
        line := if coverage = .file then 0 else number
        coverage }

/-- The suppression on a line, from the line comment or else from the block comment. -/
def ofLine? (file : String) (number : Nat) (inHeader : Bool) (line : List Char) :
    Option Suppression :=
  [linePattern, blockPattern].findSome? fun pattern =>
    (pattern.search? line).bind (ofMatch? file number inHeader)

/-- The suppressions on lines numbered from `number` on; `inHeader` says whether all
lines before them are header lines. -/
def ofLines (file : String) : (number : Nat) → (inHeader : Bool) → List (List Char) →
    List Suppression
  | _, _, [] => []
  | number, inHeader, line :: rest =>
    let inHeader := inHeader && isHeaderLine (Text.trim line)
    (ofLine? file number inHeader line).toList ++ ofLines file (number + 1) inHeader rest

/-- The suppressions in the contents of a file, at most one to a line. -/
def ofContents (file contents : String) : List Suppression :=
  ofLines file 1 true (Text.lines contents.toList)

end Suppression

end LeadingDot
