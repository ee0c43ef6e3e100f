import LeadingDot.Json.Number

/-!
# JSON values

A JSON value as it is written: the members of an object stay in the order in which they
were given.
-/

namespace LeadingDot

/-- A JSON value. -/
inductive Json where
  | null
  | bool (value : Bool)
  | number (value : Json.Number)
  | text (value : String)
  | array (items : List Json)
  | object (members : List (String × Json))
  deriving Repr

namespace Json

/-- A natural number. -/
def nat (n : Nat) : Json := .number (.integer n)

/-- A list of texts. -/
def texts (items : List String) : Json := .array (items.map .text)

/-- The member of an object with a key. -/
def lookup? (members : List (String × Json)) (key : String) : Option Json :=
  (members.find? (·.1 == key)).map (·.2)

end Json

end LeadingDot
