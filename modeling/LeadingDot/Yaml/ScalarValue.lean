import LeadingDot.Number.Binary64
import LeadingDot.Text.Hex
import LeadingDot.Yaml.Node

/-!
# Values of scalars

A plain scalar is null, a truth value or a number if it is written like one, and a text
otherwise. Digits after a leading zero are no number.
-/

namespace LeadingDot.Yaml

/-- What a scalar stands for. -/
inductive ScalarValue where
  | null
  | bool (value : Bool)
  | integer (value : Int)
  | real (value : Binary64)
  | text (value : String)
  deriving DecidableEq, Repr

/-- Whether a text is a way to write null. -/
def isNull (text : String) : Bool :=
  ["~", "null", "Null", "NULL"].contains text

/-- The truth value that a text is a way to write. -/
def bool? (text : String) : Option Bool :=
  if ["true", "True", "TRUE"].contains text then some true
  else if ["false", "False", "FALSE"].contains text then some false
  else none

/-- The natural number that digits of a base spell. -/
def natural? (base : Nat) (digits : List Char) : Option Nat :=
  if digits.isEmpty then none
  else do
    let values ← digits.mapM Text.hexValue?
    if values.all (· < base) then
      some (values.foldl (fun n value => n * base + value) 0)
    else none

/-- The natural number of a text that starts with the mark of its base. -/
def based? : List Char → Option Nat
  | '0' :: 'x' :: digits => natural? 16 digits
  | '0' :: 'o' :: digits => natural? 8 digits
  | '0' :: 'b' :: digits => natural? 2 digits
  | _ => none

/-- A text without the sign that it may start with. -/
def unsigned : List Char → List Char
  | '+' :: rest => rest
  | '-' :: rest => rest
  | text => text

/-- Whether a text is digits after a leading zero. -/
def isPaddedNumber (text : List Char) : Bool :=
  match unsigned text with
  | '0' :: c :: rest => (c :: rest).all Char.isDigit
  | _ => false

/-- The natural number that a text without a sign is a way to write. -/
def magnitude? (text : List Char) : Option Nat :=
  (based? text).orElse fun _ => if isPaddedNumber text then none else natural? 10 text

/-- Number of the patterns of 128 bits. -/
def patterns128 : Nat := 0x100000000000000000000000000000000

/-- The integer that a text is a way to write. A number has to fit into 128 bits. -/
def integer? (text : List Char) : Option Int :=
  match text with
  | '-' :: rest =>
    (magnitude? rest).bind fun n => if 2 * n ≤ patterns128 then some (-n) else none
  | '+' :: rest =>
    (magnitude? rest).bind fun n => if n < patterns128 then some n else none
  | rest =>
    (magnitude? rest).bind fun n => if n < patterns128 then some n else none

/-- The exponent at the end of a number, if it is well formed; none at all is zero. -/
def exponent? : List Char → Option Int
  | [] => some 0
  | mark :: rest =>
    if mark == 'e' || mark == 'E' then
      (natural? 10 (unsigned rest)).map fun n => if rest.head? = some '-' then -n else n
    else none

/-- The number that a decimal without a sign is: digits with a point among them, before
them or after them, and a power of ten. -/
def decimal? (negative : Bool) (text : List Char) : Option Binary64 := do
  let whole := text.takeWhile Char.isDigit
  let rest := text.dropWhile Char.isDigit
  let (fraction, rest) :=
    match rest with
    | '.' :: rest => (rest.takeWhile Char.isDigit, rest.dropWhile Char.isDigit)
    | _ => ([], rest)
  let mantissa ← natural? 10 (whole ++ fraction)
  let exponent ← exponent? rest
  some (.ofDecimal negative mantissa (exponent - fraction.length))

/-- The finite number that a text is a way to write. -/
def finite? (text : List Char) : Option Binary64 :=
  let number? :=
    match text with
    | '-' :: rest => decimal? true rest
    | '+' :: rest => decimal? false rest
    | rest => decimal? false rest
  number?.filter (·.isFinite)

/-- The floating point number that a text is a way to write. -/
def real? (text : String) : Option Binary64 :=
  if [".inf", ".Inf", ".INF", "+.inf", "+.Inf", "+.INF"].contains text then
    some Binary64.infinity
  else if ["-.inf", "-.Inf", "-.INF"].contains text then some Binary64.negativeInfinity
  else if [".nan", ".NaN", ".NAN"].contains text then some Binary64.notANumber
  else finite? text.toList

/-- What a plain scalar without a tag stands for. -/
def plainValue (text : String) : ScalarValue :=
  if text.isEmpty || isNull text then .null
  else
    match bool? text, integer? text.toList with
    | some value, _ => .bool value
    | none, some value => .integer value
    | none, none =>
      if isPaddedNumber text.toList then .text text
      else (real? text).elim (.text text) .real

/-- What a scalar with a tag stands for; if its text does not fit the tag, what would. -/
def taggedValue (tag : Tag) (style : ScalarStyle) (text : String) :
    Except String ScalarValue :=
  if tag = Tag.core "bool" then (bool? text).elim (.error "a boolean") (.ok ∘ .bool)
  else if tag = Tag.core "int" then
    (integer? text.toList).elim (.error "an integer") (.ok ∘ .integer)
  else if tag = Tag.core "float" then (real? text).elim (.error "a float") (.ok ∘ .real)
  else if tag = Tag.core "null" then if isNull text then .ok .null else .error "null"
  else if tag.isLocal && style = .plain then .ok (plainValue text)
  else .ok (.text text)

/-- What a scalar stands for; if its text does not fit its tag, what would. -/
def scalarValue (tag : Option Tag) (style : ScalarStyle) (text : String) :
    Except String ScalarValue :=
  match tag with
  | some tag => taggedValue tag style text
  | none => .ok (if style = .plain then plainValue text else .text text)

end LeadingDot.Yaml
