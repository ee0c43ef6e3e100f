import LeadingDot.Number.Decimal
import LeadingDot.Text.Alternatives
import LeadingDot.Text.Quoted
import LeadingDot.Yaml.Document
import LeadingDot.Yaml.ScalarValue

/-!
# Reading YAML values

Records, lists and choices are read from the nodes of a document. Where nothing is
written a list is empty and a record has its defaults. Any scalar is a text, as it is
written.

What is wrong with a value is told with the way to it through the document and with the
place of its node; where the fault is not in one node, with those of the mapping that
holds it.
-/

namespace LeadingDot.Yaml

/-- Why a value cannot be read. -/
inductive DecodeCause where
  /-- The value is of another type. -/
  | wrongType (found : String) (expected : String)
  /-- The value is a text that does not fit. -/
  | wrongText (found : String) (expected : String)
  /-- A choice has no such alternative. -/
  | unknownVariant (found : String) (variants : List String)
  /-- A record has two values for a field. -/
  | duplicateField (key : String)

/-- What is said of a cause. -/
def DecodeCause.message : DecodeCause → String
  | wrongType found expected => "invalid type: " ++ found ++ ", expected " ++ expected
  | wrongText found expected =>
    "invalid value: string " ++ Text.quoted found ++ ", expected " ++ expected
  | unknownVariant found variants =>
    "unknown variant `" ++ found ++ "`, expected " ++ Text.alternatives variants
  | duplicateField key => "duplicate field `" ++ key ++ "`"

/-- A step on the way to a value. -/
inductive PathStep where
  | key (key : String)
  | item (index : Nat)
  /-- To the value of a key that is no scalar. -/
  | unnamed
  deriving DecidableEq, Repr

/-- The way to a value, the last step first. -/
abbrev ValuePath := List PathStep

/-- The text of a way to a value. -/
def ValuePath.text : ValuePath → String
  | [] => ""
  | .key key :: [] => key
  | .key key :: path => ValuePath.text path ++ "." ++ key
  | .unnamed :: [] => "?"
  | .unnamed :: path => ValuePath.text path ++ ".?"
  | .item index :: [] => ".[" ++ toString index ++ "]"
  | .item index :: path => ValuePath.text path ++ "[" ++ toString index ++ "]"

/-- Why a value cannot be read, and where it is, if that is known yet. -/
structure DecodeError where
  cause : DecodeCause
  place : Option (ValuePath × Mark)

/-- What is said of an error. -/
def DecodeError.message (error : DecodeError) : String :=
  match error.place with
  | none => error.cause.message
  | some ([], mark) => error.cause.message ++ mark.suffix
  | some (path, mark) => path.text ++ ": " ++ error.cause.message ++ mark.suffix

/-- Says where an error is, unless that is known. -/
def DecodeError.within (path : ValuePath) (mark : Mark) (error : DecodeError) : DecodeError :=
  { error with place := error.place.getD (path, mark) }

/-- How an offending value is described. -/
def ScalarValue.describe : ScalarValue → String
  | null => "unit value"
  | bool value => "boolean `" ++ (if value then "true" else "false") ++ "`"
  | integer value =>
    let wide :=
      if 0x10000000000000000 ≤ value then " as u128"
      else if value < -0x8000000000000000 then " as i128"
      else ""
    "integer `" ++ toString value ++ "`" ++ wide
  | real value => "floating point `" ++ value.text Binary64.plainFormat ++ "`"
  | text value => "string " ++ Text.quoted value

/-- What is wrong with a node of the wrong type. -/
def wrongType (node : Node) (expected : String) : DecodeCause :=
  match node with
  | .scalar properties style text =>
    match scalarValue properties.tag style text with
    | .ok value => .wrongType value.describe expected
    | .error wanted => .wrongText text wanted
  | .sequence .. => .wrongType "sequence" expected
  | .mapping .. => .wrongType "map" expected
  | .reference .. => .wrongType "alias" expected

/-- Whether nothing is written for a node. -/
def isAbsent : Node → Bool
  | .scalar _ style text => style == .plain && text.isEmpty
  | _ => false

/-- A way to read the values of a type: from a document, at the end of a way through it. -/
abbrev Decoder (α : Type) := Document → ValuePath → Node → Except DecodeError α

namespace Decoder

/-- Reads a node by what it stands for. What is wrong with it is told with its place. -/
def ofNode {α : Type} (read : Document → ValuePath → Node → Except DecodeError α) : Decoder α :=
  fun document path node =>
    let node := document.resolve node
    (read document path node).mapError (DecodeError.within path node.mark)

/-- A failure whose place is not known yet. -/
def fail {α : Type} (cause : DecodeCause) : Except DecodeError α := .error ⟨cause, none⟩

/-- Reads a scalar as a text. -/
def textOf (expected : String) : Decoder String :=
  ofNode fun _ _ node =>
    match node with
    | .scalar _ _ text => .ok text
    | node => fail (wrongType node expected)

/-- Reads a text. -/
def text : Decoder String := textOf "a string"

/-- Whether a scalar may be a truth value: it is plain, or a literal block with the tag of
truth values. -/
def mayBeBool (tag : Option Tag) (style : ScalarStyle) : Bool :=
  style == .plain || (style == .literal && tag == some (Tag.core "bool"))

/-- Reads a truth value. -/
def bool : Decoder Bool :=
  ofNode fun _ _ node =>
    let wrong := fail (wrongType node "a boolean")
    match node with
    | .scalar properties style text =>
      if mayBeBool properties.tag style then (bool? text).elim wrong .ok else wrong
    | _ => wrong

/-- Whether a node stands for no value; a node that has the tag of null without being it is
an error. -/
def isNone (node : Node) : Except DecodeError Bool :=
  match node with
  | .scalar properties .plain text =>
    match properties.tag with
    | none => .ok (text.isEmpty || isNull text)
    | some tag =>
      if tag = Tag.core "null" then
        if isNull text then .ok true else fail (.wrongText text "null")
      else .ok false
  | _ => .ok false

/-- Reads a value, or none where null or nothing is written. -/
def option {α : Type} (value : Decoder α) : Decoder (Option α) :=
  fun document path node => do
    if ← isNone (document.resolve node) then return none
    else return some (← value document path node)

/-- Reads a list of values. -/
def list {α : Type} (item : Decoder α) : Decoder (List α) :=
  ofNode fun document path node =>
    match node with
    | .sequence _ items =>
      items.zipIdx.mapM fun (node, index) => item document (.item index :: path) node
    | node => if isAbsent node then .ok [] else fail (wrongType node "a sequence")

/-- The alternative with a name. -/
def variant {α : Type} (variants : List (String × α)) (name : String) : Except DecodeError α :=
  match variants.find? (·.1 == name) with
  | some (_, value) => .ok value
  | none => fail (.unknownVariant name (variants.map (·.1)))

/-- Checks that nothing but null stands after the tag that names an alternative. -/
def emptyContent : Node → Except DecodeError Unit
  | .scalar _ style text =>
    if style = .plain ∧ (text.isEmpty ∨ isNull text) then .ok ()
    else fail (.wrongText text "null")
  | node => fail (wrongType node "unit")

/-- The tag of a node. -/
def tagOf : Node → Option Tag
  | .scalar properties .. | .sequence properties _ | .mapping properties _ => properties.tag
  | .reference .. => none

/-- Reads a choice from a node that is no alias: a scalar with the name of an alternative,
or its name as a tag. The place of a tag that names none is left open. -/
def namedChoice {α : Type} (variants : List (String × α)) (path : ValuePath) (node : Node) :
    Except DecodeError α :=
  let here {β : Type} (result : Except DecodeError β) : Except DecodeError β :=
    result.mapError (DecodeError.within path node.mark)
  match (tagOf node).bind Tag.name?, node with
  | some name, _ => do
    let value ← variant variants name
    here (emptyContent node)
    return value
  | none, .scalar _ _ text => here (variant variants text)
  | none, node => here (fail (wrongType node "a YAML tag starting with '!'"))

/-- Reads a choice. A tag that names no alternative is told with the place of the alias that
led to it, or else with that of the mapping around it. -/
def choice {α : Type} (variants : List (String × α)) : Decoder α :=
  fun document path node =>
    let found := namedChoice variants path (document.resolve node)
    match node with
    | .reference mark _ => found.mapError (DecodeError.within path mark)
    | _ => found

/-- A field of a record: how its value changes the record. -/
abbrev Field (α : Type) := Document → ValuePath → Node → α → Except DecodeError α

/-- A field with a decoder for its values. -/
def field {α β : Type} (decoder : Decoder β) (set : β → α → α) : Field α :=
  fun document path node record => do return set (← decoder document path node) record

/-- The way to the value of a key. -/
def valuePath (path : ValuePath) : Node → ValuePath
  | .scalar _ _ key => .key key :: path
  | _ => .unnamed :: path

/-- Reads entries of a mapping into a record. Keys that are no fields are passed over. -/
def entries {α : Type} (fields : List (String × Field α)) (document : Document)
    (path : ValuePath) (seen : List String) (record : α) :
    List (Node × Node) → Except DecodeError α
  | [] => .ok record
  | (key, value) :: rest => do
    let name ← textOf "field identifier" document path key
    match fields.find? (·.1 == name) with
    | none => entries fields document path seen record rest
    | some (_, field) =>
      if seen.contains name then fail (.duplicateField name)
      else
        let record ← field document (valuePath path key) value record
        entries fields document path (name :: seen) record rest

/-- Reads a record with defaults for all fields. -/
def record {α : Type} (name : String) (fields : List (String × Field α)) (defaults : α) :
    Decoder α :=
  ofNode fun document path node =>
    match node with
    | .mapping _ found => entries fields document path [] defaults found
    | node => if isAbsent node then .ok defaults else fail (wrongType node ("struct " ++ name))

end Decoder

end LeadingDot.Yaml
