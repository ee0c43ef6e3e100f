/-!
# Styled text

Text in colours for a terminal. A style is switched on by an escape sequence and off by
the reset sequence; where a styled text holds a reset sequence itself, the style is
switched on again after it. Without colours only the characters are left.
-/

namespace LeadingDot

/-- A way in which text stands out. -/
inductive Style where
  | title
  | bold
  | dim
  | red
  | green
  | yellow
  | blue
  deriving DecidableEq, Repr

/-- The codes that switch a style on. -/
def Style.codes : Style → String
  | title => "1;36"
  | bold => "1"
  | dim => "2"
  | red => "31"
  | green => "32"
  | yellow => "33"
  | blue => "34"

/-- A text, in a style or plain. -/
structure Span where
  style : Option Style
  text : String
  deriving DecidableEq, Repr

/-- A text made of spans. -/
abbrev Styled := List Span

namespace Span

/-- The escape sequence that switches every style off. -/
def reset : List Char := ['\x1b', '[', '0', 'm']

/-- The escape sequence that switches a style on. -/
def opening (style : Style) : List Char :=
  ['\x1b', '['] ++ style.codes.toList ++ ['m']

/-- Switches a style on again after each reset sequence of a text. -/
def reopen (opening : List Char) : List Char → List Char
  | '\x1b' :: '[' :: '0' :: 'm' :: rest => reset ++ opening ++ reopen opening rest
  | c :: rest => c :: reopen opening rest
  | [] => []

/-- The characters of a span, with escape sequences if `color`. -/
def render (color : Bool) (span : Span) : List Char :=
  match span.style, color with
  | some style, true =>
    opening style ++ reopen (opening style) span.text.toList ++ reset
  | _, _ => span.text.toList

end Span

namespace Styled

/-- Plain text. -/
def plain (text : String) : Styled := [⟨none, text⟩]

/-- Text in a style. -/
def styled (style : Style) (text : String) : Styled := [⟨some style, text⟩]

/-- The characters of a text, with escape sequences if `color`. -/
def render (color : Bool) (text : Styled) : String :=
  String.ofList (text.flatMap (Span.render color))

end Styled

end LeadingDot
