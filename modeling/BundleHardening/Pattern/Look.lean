import BundleHardening.Text.Word

/-!
# Conditions on a position

Parts of a pattern that match the empty text where a condition on the two neighbouring characters
holds: ends of the text and of lines, and word boundaries.
-/

set_option autoImplicit false

namespace BundleHardening

/-- The kinds of word boundary. -/
inductive Boundary where
  /-- Exactly one neighbour is a word character. -/
  | any
  /-- Both or neither are. -/
  | none
  /-- A word begins here. -/
  | start
  /-- A word ends here. -/
  | stop
  /-- No word character stands before. -/
  | startHalf
  /-- No word character stands after. -/
  | stopHalf
  deriving DecidableEq, Repr

/-- Whether a boundary of the kind lies between two neighbours that are or are not part of a word. -/
def Boundary.holds : Boundary → (before after : Bool) → Bool
  | any, before, after => before != after
  | none, before, after => before == after
  | start, before, after => !before && after
  | stop, before, after => before && !after
  | startHalf, before, _ => !before
  | stopHalf, _, after => !after

/-- A condition on a position. -/
inductive Look where
  | textStart
  | textEnd
  | lineStart
  | lineEnd
  /-- Line start where a carriage return, a line feed or both together end a line. -/
  | anyLineStart
  /-- Line end where a carriage return, a line feed or both together end a line. -/
  | anyLineEnd
  | boundary (kind : Boundary)
  | asciiBoundary (kind : Boundary)
  deriving DecidableEq, Repr

namespace Look

/-- Whether the condition holds between the given neighbours; an end of the text is `none`. -/
def holds (look : Look) (before after : Option Char) : Bool :=
  match look with
  | textStart => before.isNone
  | textEnd => after.isNone
  | lineStart => before.isNone || before == some '\n'
  | lineEnd => after.isNone || after == some '\n'
  | anyLineStart => before.isNone || before == some '\n' || (before == some '\r' && after != some '\n')
  | anyLineEnd => after.isNone || after == some '\r' || (after == some '\n' && before != some '\r')
  | boundary kind => kind.holds (before.any isWord) (after.any isWord)
  | asciiBoundary kind => kind.holds (before.any isAsciiWord) (after.any isAsciiWord)

/-- Whether the condition is about words. -/
def isBoundary : Look → Bool
  | boundary _ | asciiBoundary _ => true
  | _ => false

end Look

end BundleHardening
