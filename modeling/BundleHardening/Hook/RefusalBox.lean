import BundleHardening.Rewrite.Error
import BundleHardening.Terminal

/-!
# The refusal box

When a chunk is refused, a box in the diagnostics shows the rule and its pattern, and what can be done.
-/

set_option autoImplicit false

namespace BundleHardening.RefusalBox

open Terminal

/-- The number of characters between the sides of the box. -/
def width : Nat := 70

/-- A run of blanks. -/
def blanks (n : Nat) : Text :=
  List.replicate n ' '

/-- A text cut to a number of characters; three points show a cut. -/
def cut (most : Nat) (t : Text) : Text :=
  if t.length ≤ most then t else t.take (most - 3) ++ "...".toList

/-- A text in pieces of a number of characters; an empty text is one piece. -/
def wrap (most : Nat) (t : Text) : List Text :=
  let rec go : Nat → Text → List Text
    | 0, _ => []
    | fuel + 1, t => if t.isEmpty then [] else t.take most :: go fuel (t.drop most)
  if t.isEmpty then [[]] else go t.length t

variable (colours : Bool)

/-- The side of the box. -/
def side : Text :=
  paint colours (.of .red) ['│']

/-- A line of the box with something between its sides. -/
def row (content : Text) : Text :=
  side colours ++ content ++ side colours ++ ['\n']

/-- The upper or lower edge of the box. -/
def edge (left right : Char) : Text :=
  paint colours (.of .red) [left] ++ paint colours (.of .red) (List.replicate width '─') ++
    paint colours (.of .red) [right] ++ ['\n']

/-- A line across the box. -/
def rule : Text :=
  paint colours (.of .red) ['├'] ++
    paint colours (Style.of .red).dimmed (List.replicate width '─') ++
    paint colours (.of .red) ['┤'] ++ ['\n']

/-- A line with a quiet text. -/
def quiet (t : Text) : Text :=
  row colours (paint colours (.of .brightBlack) t ++ blanks (width - t.length))

/-- A line with a label and a value. -/
def labelled (label : String) (value : Text) : Text :=
  let label := label.toList
  let value := cut (width - (label.length + 4)) value
  row colours
    (blanks 2 ++ paint colours (.of .brightBlack) label ++ blanks 1 ++
      paint colours (.of .cyan) value ++ blanks (width - (3 + label.length + value.length)))

/-- What stands before the first line of the pattern. -/
def patternLabel : Text := "Pattern:".toList

/-- The width of what stands before the pattern. -/
def patternIndent : Nat := patternLabel.length + 3

/-- A line with a piece of the pattern; the first one has the label. -/
def patternRow (first : Bool) (piece : Text) : Text :=
  let before :=
    if first then blanks 2 ++ paint colours (Style.of .yellow).bold patternLabel ++ blanks 1
    else blanks patternIndent
  row colours
    (before ++ paint colours (.of .brightWhite) piece ++
      blanks (width - (patternIndent + piece.length)))

/-- The lines with the pattern. -/
def patternRows (pattern : Text) : Text :=
  match wrap (width - patternIndent - 1) pattern with
  | [] => []
  | piece :: rest => patternRow colours true piece ++ rest.flatMap (patternRow colours false)

/-- What can be done about a refusal. -/
def advice : List String :=
  ["  The chunk does not have the expected webpack runtime shape.",
   "  Nothing was emitted. Check the bundler version and output",
   "  settings, then run: bpg check <bundle.js>"]

/-- The box for a refused chunk. -/
def render (e : RewriteError) (label : String) : Text :=
  ['\n'] ++ edge colours '╭' '╮' ++
    row colours
      (blanks 2 ++ paint colours ((Style.of .white).on .red).bold "REFUSED".toList ++ blanks 2 ++
        blanks (width - 11)) ++
    quiet colours "   Bootstrap pollution guard (bpg)".toList ++
    rule colours ++
    labelled colours "Chunk:" label.toList ++
    labelled colours "Rule:" e.rule.toList ++
    row colours (blanks width) ++
    patternRows colours e.pattern ++
    rule colours ++
    advice.flatMap (fun line => quiet colours line.toList) ++
    edge colours '╰' '╯' ++ ['\n']

end BundleHardening.RefusalBox
