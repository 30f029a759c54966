import BundleHardening.Text.Basic

/-!
# The groups of a match

What a match hands to a replacement: the text of the whole match and of each group, and the text
that follows.
-/

set_option autoImplicit false

namespace BundleHardening

/-- The parts of a match, the whole match first; a group that took no part is `none`.  `after` is the
text behind the match. -/
structure Groups where
  groups : List (Option Text)
  after : Text := []
  deriving DecidableEq, Repr

namespace Groups

/-- The number of parts. -/
def size (g : Groups) : Nat :=
  g.groups.length

/-- What the group matched, when it took part. -/
def get? (g : Groups) (index : Nat) : Option Text :=
  g.groups[index]?.join

/-- What the group matched; nothing when it took no part. -/
def get (g : Groups) (index : Nat) : Text :=
  (g.get? index).getD []

/-- The whole match. -/
def whole (g : Groups) : Text :=
  g.get 0

end Groups

end BundleHardening
