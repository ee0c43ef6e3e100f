import LeadingDot.Text.CaseTable

/-!
# Lower case

Lower-casing by the character database: most characters map to one character, the
capital I with a dot maps to two, and a capital sigma takes its final form at the
end of a word.
-/

namespace LeadingDot.Text

/-- The code point a run maps `n` to, if the run holds `n`. -/
def CaseRun.lower? (run : CaseRun) (n : Nat) : Option Nat :=
  if run.first ≤ n ∧ n ≤ run.last ∧ (n - run.first) % run.step = 0 then
    some (n + run.shift).toNat
  else
    none

/-- The lower case of a character on its own. -/
def lowerChar (c : Char) : List Char :=
  if c = 'İ' then ['i', '\u0307']
  else match lowerRuns.findSome? (·.lower? c.toNat) with
    | some n => [Char.ofNat n]
    | none => [c]

/-- Whether the first character that is not passed over is a cased one. -/
def meetsCased (cs : List Char) : Bool :=
  match cs.dropWhile caseIgnorable.has with
  | [] => false
  | c :: _ => cased.has c

/-- Lower-cases `cs`, which stands after the reversed text `seen`. A sigma is
final when a cased character stands before it and none after it. -/
def lowerFrom : List Char → List Char → List Char
  | _, [] => []
  | seen, c :: cs =>
    (if c = 'Σ' then
      if meetsCased seen && !meetsCased cs then ['ς'] else ['σ']
    else
      lowerChar c) ++ lowerFrom (c :: seen) cs

/-- The lower case of a text. -/
def lowercase (s : String) : String :=
  String.ofList (lowerFrom [] s.toList)

end LeadingDot.Text
