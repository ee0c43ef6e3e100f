/-!
# Alternatives in words
-/

namespace LeadingDot.Text

/-- The names of some alternatives, in words: each between backticks, two with `or`
between them, several after `one of`. -/
def alternatives (names : List String) : String :=
  match names.map fun name => "`" ++ name ++ "`" with
  | [] => "nothing"
  | [a] => a
  | [a, b] => a ++ " or " ++ b
  | several => "one of " ++ String.intercalate ", " several

end LeadingDot.Text
