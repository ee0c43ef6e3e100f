/-!
# Lines

A line ends at a line feed, and a carriage return before the line feed belongs to the
end of the line. A last line without a line feed keeps its carriage return. Text that
ends in a line feed has no further, empty line.
-/

namespace LeadingDot.Text

/-- Drops one carriage return at the end of a line. -/
def dropReturn (line : List Char) : List Char :=
  match line.reverse with
  | '\r' :: rest => rest.reverse
  | _ => line

/-- The lines of a text that goes on the line whose reversed start is `seen`. -/
def linesFrom : List Char → List Char → List (List Char)
  | [], [] => []
  | seen, [] => [seen.reverse]
  | seen, c :: cs =>
    if c = '\n' then dropReturn seen.reverse :: linesFrom [] cs else linesFrom (c :: seen) cs

/-- The lines of a text. -/
def lines (cs : List Char) : List (List Char) :=
  linesFrom [] cs

end LeadingDot.Text
