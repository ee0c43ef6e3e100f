import LeadingDot.Yaml.Tag

/-!
# Directives

A line before a document that starts with a percent sign. It says which version of the
language the document is written in, or what a tag handle stands for.
-/

namespace LeadingDot.Yaml

open MarkedChar

/-- A directive. -/
inductive Directive where
  | version (major minor : Nat)
  | tag (handle : String) (stem : List UInt8)
  deriving DecidableEq, Repr

/-- Reads a number of at most nine digits. -/
def versionNumber (text : List MarkedChar) : Except Fault (Nat × List MarkedChar) :=
  let digits := takeWhile Char.isDigit text
  if digits.isEmpty then failAt .missingVersion text
  else if 9 < digits.length then failAt .longVersion (text.drop 9)
  else
    .ok (digits.foldl (fun n digit => n * 10 + (digit.toNat - '0'.toNat)) 0,
      dropWhile Char.isDigit text)

/-- Reads the version that a directive names. -/
def versionDirective (text : List MarkedChar) : Except Fault (Directive × List MarkedChar) := do
  let (major, rest) ← versionNumber (dropWhile isBlank text)
  if peek rest == '.' then
    let (minor, rest) ← versionNumber (rest.drop 1)
    return (.version major minor, rest)
  else failAt .versionCharacter rest

/-- Reads the handle of a directive and what it stands for. -/
def tagDirective (text : List MarkedChar) : Except Fault (Directive × List MarkedChar) := do
  let text := dropWhile isBlank text
  let (handle, rest) ← handleText text
  if handle != ['!'] && handle.getLast? != some '!' then failAt .tagMark rest
  else if !isBlank (peek rest) then failAt .missingSpace rest
  else
    let (stem, rest) ← uri isVerbatimChar (dropWhile isBlank rest)
    if isSpaceOrEnd (peek rest) then
      return (.tag (String.ofList handle) stem, rest)
    else failAt .missingSpaceOrBreak rest

/-- Reads a directive after its percent sign, up to the end of its line. -/
def directive (text : List MarkedChar) : Except Fault (Directive × List MarkedChar) := do
  let name := takeWhile isNameChar text
  let rest := dropWhile isNameChar text
  if name.isEmpty then failAt .missingDirectiveName text
  else if !isSpaceOrEnd (peek rest) then failAt .directiveNameCharacter rest
  else
    let (found, rest) ← (
      if String.ofList name == "YAML" then versionDirective rest
      else if String.ofList name == "TAG" then tagDirective rest
      else failAt .unknownDirective text)
    let rest := dropWhile isBlank rest
    let rest := if peek rest == '#' then dropWhile (!isBreakOrEnd ·) rest else rest
    if isBreak (peek rest) then return (found, rest.drop 1)
    else if peek rest == endMark then return (found, rest)
    else failAt .missingLineEnd rest

end LeadingDot.Yaml
