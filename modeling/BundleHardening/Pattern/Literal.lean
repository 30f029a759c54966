import BundleHardening.Pattern.Escape

/-!
# Writing exact text as a pattern

Every character that has a meaning in a pattern is written behind a backslash, so that the pattern
matches the text and nothing else.
-/

set_option autoImplicit false

namespace BundleHardening

/-- The pattern that matches exactly the given text. -/
def Text.escape (t : Text) : Text :=
  t.flatMap fun c => if Escape.isMeta c then ['\\', c] else [c]

end BundleHardening
