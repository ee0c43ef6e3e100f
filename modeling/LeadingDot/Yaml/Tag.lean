import LeadingDot.Text.Hex
import LeadingDot.Text.Utf8
import LeadingDot.Yaml.MarkedChar

/-!
# Tags

A tag says what a node is. It is written in full between angle brackets, or as a handle
and a suffix; a directive says what a handle stands for.

The address that a tag is consists of octets. They can be written by their numbers, and
then nothing makes them UTF-8. An octet that is zero ends the address, whatever is
written after it.
-/

namespace LeadingDot.Yaml

open MarkedChar

/-- A tag, by the octets of its address. -/
structure Tag where
  octets : List UInt8
  deriving DecidableEq, Repr

namespace Tag

/-- The tag whose address is a text. -/
def ofText (text : String) : Tag := ⟨text.toUTF8.data.toList⟩

/-- The tag of a schema of the language itself. -/
def core (name : String) : Tag := ofText ("tag:yaml.org,2002:" ++ name)

/-- Whether a tag has a meaning in its document only: it starts with an exclamation mark. -/
def isLocal (tag : Tag) : Bool := tag.octets.head? == some 0x21

/-- The name that a local tag gives: what is after the exclamation mark, or the
exclamation mark itself if it is alone. Octets that are not UTF-8 give no name. -/
def name? (tag : Tag) : Option String :=
  match tag.octets with
  | [0x21] => some "!"
  | 0x21 :: rest => (Text.Utf8.decode? rest).map String.ofList
  | _ => none

end Tag

/-- A tag as it is written. A tag without a handle stands for itself. -/
structure WrittenTag where
  handle : String
  suffix : List UInt8
  deriving DecidableEq, Repr

/-- Whether a character may stand in the address that a tag is. -/
def isUriChar (c : Char) : Bool :=
  isNameChar c || [';', '/', '?', ':', '@', '&', '=', '+', '$', '.', '!', '~', '*', '\'', '(',
    ')', '%'].contains c

/-- Whether a character may stand in an address between angle brackets. -/
def isVerbatimChar (c : Char) : Bool :=
  isUriChar c || c == ',' || c == '[' || c == ']'

/-- Reads an octet that is written as a percent sign and two hexadecimal digits. -/
def octet? : List MarkedChar → Option (UInt8 × List MarkedChar)
  | percent :: a :: b :: rest =>
    if percent.char == '%' then do
      let high ← Text.hexValue? a.char
      let low ← Text.hexValue? b.char
      some (UInt8.ofNat (high * 16 + low), rest)
    else none
  | _ => none

/-- Number of octets that belong together, by the first of them. -/
def octetCount? (first : UInt8) : Option Nat :=
  if first < 0x80 then some 1
  else if first / 0x20 = 6 then some 2
  else if first / 0x10 = 14 then some 3
  else if first / 0x08 = 30 then some 4
  else none

/-- Reads the octets that belong to a first one. -/
def laterOctets : Nat → List MarkedChar → Except Fault (List UInt8 × List MarkedChar)
  | 0, text => .ok ([], text)
  | count + 1, text =>
    match octet? text with
    | none => failAt .uriOctet text
    | some (octet, rest) =>
      if octet / 0x40 = 2 then
        (laterOctets count rest).map fun (octets, rest) => (octet :: octets, rest)
      else failAt .uriTrailingOctet text

/-- Reads octets that are written by their numbers: a first one and those that belong to
it. What they spell is not looked at. -/
def escapedOctets (text : List MarkedChar) : Except Fault (List UInt8 × List MarkedChar) :=
  match octet? text with
  | none => failAt .uriOctet text
  | some (first, rest) =>
    match octetCount? first with
    | none => failAt .uriLeadingOctet text
    | some count =>
      (laterOctets (count - 1) rest).map fun (octets, rest) => (first :: octets, rest)

/-- The octets of characters of an address. All of them are ASCII. -/
def octetsOf (cs : List Char) : List UInt8 := cs.map fun c => UInt8.ofNat c.toNat

/-- What counts of an address: its octets before the first that is zero. -/
def beforeZero (octets : List UInt8) : List UInt8 := octets.takeWhile (· != 0)

/-- Reads the octets of an address as far as it goes. -/
def uriOctets (isAllowed : Char → Bool) (text : List MarkedChar) :
    Except Fault (List UInt8 × List MarkedChar) :=
  if isAllowed (peek text) then
    if peek text == '%' then
      match escapedOctets text with
      | .error fault => .error fault
      | .ok (octets, rest) =>
        if rest.length < text.length then
          (uriOctets isAllowed rest).map fun (more, rest) => (octets ++ more, rest)
        else .ok (octets, rest)
    else
      match text with
      | [] => .ok ([], [])
      | symbol :: rest =>
        (uriOctets isAllowed rest).map fun (more, rest) =>
          (octetsOf [symbol.char] ++ more, rest)
  else .ok ([], text)
termination_by text.length

/-- Reads an address that is written with at least one octet. -/
def uri (isAllowed : Char → Bool) (text : List MarkedChar) :
    Except Fault (List UInt8 × List MarkedChar) := do
  let (octets, rest) ← uriOctets isAllowed text
  if octets.isEmpty then failAt .tagUri text else return (beforeZero octets, rest)

/-- Reads an exclamation mark, the name after it, and the exclamation mark that ends it. -/
def handleText (text : List MarkedChar) : Except Fault (List Char × List MarkedChar) :=
  if peek text == '!' then
    let name := takeWhile isNameChar (text.drop 1)
    let rest := dropWhile isNameChar (text.drop 1)
    if peek rest == '!' then .ok ('!' :: name ++ ['!'], rest.drop 1)
    else .ok ('!' :: name, rest)
  else failAt .tagMark text

/-- Reads a tag as it is written. -/
def writtenTag (text : List MarkedChar) : Except Fault (WrittenTag × List MarkedChar) := do
  if peek (text.drop 1) == '<' then
    let (address, rest) ← uri isVerbatimChar (text.drop 2)
    if peek rest == '>' then
      return (⟨"", address⟩, rest.drop 1)
    else failAt .tagEnd rest
  else
    let (handle, rest) ← handleText text
    if handle.length ≥ 2 && handle.getLast? == some '!' then
      let (suffix, rest) ← uri isUriChar rest
      return (⟨String.ofList handle, suffix⟩, rest)
    else
      let (more, rest) ← uriOctets isUriChar rest
      let suffix := beforeZero (octetsOf (handle.drop 1) ++ more)
      if suffix.isEmpty then return (⟨"", octetsOf ['!']⟩, rest)
      else return (⟨"!", suffix⟩, rest)

/-- Reads a tag up to the blank that has to follow it; in a flow collection a comma may
follow it as well. -/
def tag (flow : Bool) (text : List MarkedChar) : Except Fault (WrittenTag × List MarkedChar) := do
  let (found, rest) ← writtenTag text
  if isSpaceOrEnd (peek rest) || (flow && peek rest == ',') then return (found, rest)
  else failAt .missingSpaceOrBreak rest

end LeadingDot.Yaml
