import LeadingDot.Json.Value
import LeadingDot.Text.Alternatives
import LeadingDot.Text.Quoted

/-!
# Reading JSON values

Records and choices are read from JSON values. What is wrong with a value is one of a
few causes, each with a fixed wording.

A record is an object with a member for each field, or an array of its fields in order.
Of an object with several faults, the one whose key comes first is told; fields that are
missing are told only when all members are in order, the first one in the order of the
fields. Members that are no fields are passed over.
-/

namespace LeadingDot.Json

/-- Why a value cannot be read. -/
inductive DecodeError where
  /-- The value is of another type. -/
  | wrongType (found : Json) (expected : String)
  /-- The value is of the right type, but not in range. -/
  | wrongValue (found : Json) (expected : String)
  /-- A record has no member for a field. -/
  | missingField (key : String)
  /-- A choice has no such alternative. -/
  | unknownVariant (found : String) (variants : List String)
  /-- An array has too few or too many items. -/
  | wrongLength (length : Nat) (expected : String)

/-- How an offending value is described. -/
def describe : Json → String
  | .null => "null"
  | .bool value => "boolean `" ++ (if value then "true" else "false") ++ "`"
  | .number (.integer value) => "integer `" ++ toString value ++ "`"
  | .number (.real value) => "floating point `" ++ value.text Binary64.compactFormat ++ "`"
  | .text value => "string " ++ Text.quoted value
  | .array _ => "sequence"
  | .object _ => "map"

/-- What is said of a value that cannot be read. -/
def DecodeError.message : DecodeError → String
  | wrongType found expected => "invalid type: " ++ describe found ++ ", expected " ++ expected
  | wrongValue found expected => "invalid value: " ++ describe found ++ ", expected " ++ expected
  | missingField key => "missing field `" ++ key ++ "`"
  | unknownVariant found variants =>
    "unknown variant `" ++ found ++ "`, expected " ++ Text.alternatives variants
  | wrongLength length expected =>
    "invalid length " ++ toString length ++ ", expected " ++ expected

/-- A way to read values of a type. -/
abbrev Decoder (α : Type) := Json → Except DecodeError α

namespace Decoder

/-- Reads a text. -/
def text : Decoder String
  | .text value => .ok value
  | other => .error (.wrongType other "a string")

/-- Reads a truth value. -/
def bool : Decoder Bool
  | .bool value => .ok value
  | other => .error (.wrongType other "a boolean")

/-- Reads a natural number. -/
def nat : Decoder Nat
  | .number (.integer value) =>
    if 0 ≤ value then .ok value.toNat
    else .error (.wrongValue (.number (.integer value)) "usize")
  | other => .error (.wrongType other "usize")

/-- Reads an array of values. -/
def list {α : Type} (item : Decoder α) : Decoder (List α)
  | .array items => items.mapM item
  | other => .error (.wrongType other "a sequence")

/-- Reads a value or null. -/
def option {α : Type} (value : Decoder α) : Decoder (Option α)
  | .null => .ok none
  | other => (value other).map some

/-- The alternative with a name. -/
def variant {α : Type} (variants : List (String × α)) (name : String) : Except DecodeError α :=
  match variants.find? (·.1 == name) with
  | some (_, value) => .ok value
  | none => .error (.unknownVariant name (variants.map (·.1)))

/-- Reads a choice: the name of an alternative, or an object whose only member has that
name as its key and null as its value. -/
def choice {α : Type} (variants : List (String × α)) : Decoder α
  | .text name => variant variants name
  | .object [(name, value)] => do
    let chosen ← variant variants name
    match value with
    | .null => .ok chosen
    | other => .error (.wrongType other "unit")
  | .object members => .error (.wrongValue (.object members) "map with a single key")
  | other => .error (.wrongType other "string or map")

end Decoder

/-- A fault found in a record, and where. -/
inductive Fault where
  /-- The member with this key cannot be read. -/
  | member (key : String) (error : DecodeError)
  /-- There is no member for this field. -/
  | missing (key : String)

/-- Whether a fault is told rather than another: members come before missing fields,
and members in the order of their keys. -/
def Fault.precedes : Fault → Fault → Bool
  | .member a _, .member b _ => a ≤ b
  | .member .., .missing _ => true
  | .missing _, .member .. => false
  | .missing _, .missing _ => true

/-- The cause that a fault amounts to. -/
def Fault.error : Fault → DecodeError
  | .member _ error => error
  | .missing key => .missingField key

/-- Of two faults, in the order of their fields, the one that is told. -/
def Fault.first (a b : Fault) : Fault :=
  if a.precedes b then a else b

/-- Fields of a record: the members are read all at once, so that the right one of
several faults can be told, and the items of an array one after the other. -/
structure Fields (α : Type) where
  /-- Number of fields. -/
  count : Nat
  /-- Reads the fields from the members of an object. -/
  ofMembers : List (String × Json) → Except Fault α
  /-- Reads the fields from the items of an array and leaves the items after them. A
  number alone means that there is no item for the field with that number. -/
  ofItems : List Json → Except (Nat ⊕ DecodeError) (α × List Json)

namespace Fields

/-- A record without fields. -/
def done {α : Type} (value : α) : Fields α :=
  { count := 0
    ofMembers := fun _ => .ok value
    ofItems := fun items => .ok (value, items) }

/-- The value of a record's next field: `absent` stands in for a member that is missing,
`omitted` for an item that is. -/
def next {α β : Type} (fields : Fields (α → β)) (key : String) (decoder : Decoder α)
    (absent omitted : Option α) : Fields β :=
  { count := fields.count + 1
    ofMembers := fun members =>
      let value : Except Fault α :=
        match lookup? members key with
        | some member => (decoder member).mapError (.member key)
        | none => absent.elim (.error (.missing key)) .ok
      match fields.ofMembers members, value with
      | .ok build, .ok value => .ok (build value)
      | .ok _, .error fault => .error fault
      | .error fault, .ok _ => .error fault
      | .error first, .error second => .error (first.first second)
    ofItems := fun items =>
      match fields.ofItems items with
      | .error failure => .error failure
      | .ok (build, item :: rest) =>
        match decoder item with
        | .ok value => .ok (build value, rest)
        | .error error => .error (.inr error)
      | .ok (build, []) =>
        match omitted with
        | some value => .ok (build value, [])
        | none => .error (.inl fields.count) }

/-- A field that has to be there. -/
def required {α β : Type} (fields : Fields (α → β)) (key : String) (decoder : Decoder α) :
    Fields β :=
  fields.next key decoder none none

/-- A field with a default. -/
def defaulted {α β : Type} (fields : Fields (α → β)) (key : String) (decoder : Decoder α)
    (value : α) : Fields β :=
  fields.next key decoder (some value) (some value)

/-- A field that an object may leave out, but an array may not. -/
def optional {α β : Type} (fields : Fields (Option α → β)) (key : String)
    (decoder : Decoder α) : Fields β :=
  fields.next key decoder.option (some none) none

/-- The name of a record with its number of fields, as a length is asked for. -/
def lengthText {α : Type} (fields : Fields α) (name : String) : String :=
  "struct " ++ name ++ " with " ++ toString fields.count ++
    (if fields.count = 1 then " element" else " elements")

/-- Reads a record. -/
def decoder {α : Type} (fields : Fields α) (name : String) : Decoder α
  | .object members => (fields.ofMembers members).mapError Fault.error
  | .array items =>
    match fields.ofItems items with
    | .ok (value, []) => .ok value
    | .ok (_, _ :: _) => .error (.wrongLength items.length "fewer elements in array")
    | .error (.inl place) => .error (.wrongLength place (fields.lengthText name))
    | .error (.inr error) => .error error
  | other => .error (.wrongType other ("struct " ++ name))

end Fields

end LeadingDot.Json
