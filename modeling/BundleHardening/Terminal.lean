import BundleHardening.Text.Occurrence

/-!
# Styled text

On a terminal a text can be printed in a style: codes before it turn the style on, and one behind it
turns it off.  Where colours are off, and around an empty text, no codes are written.
-/

set_option autoImplicit false

namespace BundleHardening.Terminal

/-- A colour of the text or of the ground behind it. -/
inductive Colour where
  | red
  | green
  | yellow
  | cyan
  | white
  | brightBlack
  | brightWhite
  deriving DecidableEq, Repr

/-- The code of a colour of the text. -/
def Colour.code : Colour → String
  | red => "31"
  | green => "32"
  | yellow => "33"
  | cyan => "36"
  | white => "37"
  | brightBlack => "90"
  | brightWhite => "97"

/-- The code of a colour of the ground. -/
def Colour.groundCode : Colour → String
  | red => "41"
  | green => "42"
  | yellow => "43"
  | cyan => "46"
  | white => "47"
  | brightBlack => "100"
  | brightWhite => "107"

/-- How heavy the text is. -/
inductive Weight where
  | plain
  | bold
  | dimmed
  deriving DecidableEq, Repr

/-- The code of a weight. -/
def Weight.code? : Weight → Option String
  | plain => none
  | bold => some "1"
  | dimmed => some "2"

/-- A way of printing. -/
structure Style where
  weight : Weight := .plain
  ground : Option Colour := none
  colour : Option Colour := none

namespace Style

/-- Text in a colour. -/
def of (c : Colour) : Style where
  colour := some c

/-- The style with a heavier text. -/
def bold (s : Style) : Style :=
  { s with weight := .bold }

/-- The style with a lighter text. -/
def dimmed (s : Style) : Style :=
  { s with weight := .dimmed }

/-- The style on a ground. -/
def on (s : Style) (c : Colour) : Style :=
  { s with ground := some c }

/-- The codes of the style: weight, ground, colour. -/
def codes (s : Style) : List String :=
  s.weight.code?.toList ++ (s.ground.map Colour.groundCode).toList ++
    (s.colour.map Colour.code).toList

/-- What turns the style on. -/
def opening (s : Style) : Text :=
  "\x1b[".toList ++ (";".intercalate s.codes).toList ++ ['m']

/-- What turns every style off. -/
def closing : Text := "\x1b[0m".toList

end Style

/-- A text in a style, if colours are on.  Where the text itself turns styles off, the style is turned
on again. -/
def paint (colours : Bool) (s : Style) (t : Text) : Text :=
  if !colours || t.isEmpty || s.codes.isEmpty then t
  else s.opening ++ Text.replaceAll Style.closing (Style.closing ++ s.opening) t ++ Style.closing

end BundleHardening.Terminal
