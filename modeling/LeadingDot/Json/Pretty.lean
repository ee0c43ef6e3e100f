import LeadingDot.Json.Value
import LeadingDot.Text.Hex

/-!
# JSON text

The text of a JSON value over several lines: each item and each member stands on a line
of its own, two blanks further in than the value that holds it. An array or object that
holds nothing stays on one line.
-/

namespace LeadingDot.Json

/-- A character as it stands in a JSON string. -/
def escapedChar (c : Char) : List Char :=
  if c = '"' ∨ c = '\\' then ['\\', c]
  else if c = '\x08' then ['\\', 'b']
  else if c = '\x0c' then ['\\', 'f']
  else if c = '\n' then ['\\', 'n']
  else if c = '\r' then ['\\', 'r']
  else if c = '\t' then ['\\', 't']
  else if c.toNat < 0x20 then ['\\', 'u'] ++ Text.hexPadded 4 c.toNat
  else [c]

/-- A JSON string. -/
def quotedText (s : String) : String :=
  String.ofList ('"' :: s.toList.flatMap escapedChar ++ ['"'])

/-- A JSON number. -/
def Number.text : Number → String
  | .integer value => toString value
  | .real value => value.text Binary64.compactFormat

/-- A new line, indented by `depth` steps. -/
def lineAt (depth : Nat) : String :=
  String.ofList ('\n' :: List.replicate (2 * depth) ' ')

/-- Puts the parts of an array or object on lines between its brackets. -/
def onLines (opening closing : String) (depth : Nat) (parts : List String) : String :=
  if parts.isEmpty then opening ++ closing
  else
    opening ++ lineAt (depth + 1) ++ String.intercalate ("," ++ lineAt (depth + 1)) parts ++
      lineAt depth ++ closing

mutual

/-- The text of a value that stands `depth` steps in. -/
def prettyAt (depth : Nat) : Json → String
  | .null => "null"
  | .bool value => if value then "true" else "false"
  | .number value => value.text
  | .text value => quotedText value
  | .array items => onLines "[" "]" depth (prettyItems (depth + 1) items)
  | .object members => onLines "\x7b" "\x7d" depth (prettyMembers (depth + 1) members)

/-- The texts of the items of an array. -/
def prettyItems (depth : Nat) : List Json → List String
  | [] => []
  | item :: rest => prettyAt depth item :: prettyItems depth rest

/-- The texts of the members of an object. -/
def prettyMembers (depth : Nat) : List (String × Json) → List String
  | [] => []
  | member :: rest => prettyMember depth member :: prettyMembers depth rest

/-- The text of one member. -/
def prettyMember (depth : Nat) : String × Json → String
  | (key, value) => quotedText key ++ ": " ++ prettyAt depth value

end

/-- The text of a value over several lines. -/
def pretty (value : Json) : String :=
  prettyAt 0 value

end LeadingDot.Json
