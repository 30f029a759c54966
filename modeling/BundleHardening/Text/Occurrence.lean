import BundleHardening.Text.Basic

/-!
# Replacing exact text

The occurrences of a text in another, taken from the left without overlap, and their replacement.
The empty text occurs before every character and at the end.
-/

set_option autoImplicit false

namespace BundleHardening.Text

/-- Replaces the occurrences from the left; `skip` characters belong to the occurrence just
replaced and are dropped first. -/
def replaceFrom (needle new : Text) : (skip : Nat) → Text → Text
  | _, [] => []
  | skip + 1, _ :: t => replaceFrom needle new skip t
  | 0, c :: t =>
    if startsWith (c :: t) needle then new ++ replaceFrom needle new (needle.length - 1) t
    else c :: replaceFrom needle new 0 t

/-- Replaces every occurrence of `needle` in the text by `new`. -/
def replaceAll (needle new t : Text) : Text :=
  if needle.isEmpty then t.flatMap (fun c => new ++ [c]) ++ new
  else replaceFrom needle new 0 t

end BundleHardening.Text
