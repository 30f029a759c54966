import BundleHardening.Text.Basic

/-!
# Text and bytes

Files and streams hold bytes; a text is their UTF-8 form.
-/

set_option autoImplicit false

namespace BundleHardening.Text

/-- The text of the bytes, when they are UTF-8. -/
def ofBytes? (bytes : ByteArray) : Option Text :=
  (String.fromUTF8? bytes).map String.toList

/-- The UTF-8 form of a text. -/
def toBytes (t : Text) : ByteArray :=
  (String.ofList t).toUTF8

end BundleHardening.Text
