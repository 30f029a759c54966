import BundleHardening.Text.Blank

/-!
# Text

The text of a chunk, a pattern or a replacement is a list of characters.  Sizes and offsets that
leave the library are counted in bytes of the UTF-8 form.
-/

set_option autoImplicit false

namespace BundleHardening

/-- A text, character by character. -/
abbrev Text := List Char

namespace Text

/-- The number of bytes of the UTF-8 form. -/
def byteSize : Text → Nat
  | [] => 0
  | c :: t => c.utf8Size + byteSize t

/-- What follows `start` in `t`, when `t` begins with it. -/
def after? : (start t : Text) → Option Text
  | [], t => some t
  | _ :: _, [] => none
  | a :: start, b :: t => if a = b then after? start t else none

/-- Whether `t` begins with `start`. -/
def startsWith (t start : Text) : Bool :=
  (after? start t).isSome

/-- Whether `needle` stands somewhere in `t`; the empty text stands everywhere. -/
def holds (needle : Text) : Text → Bool
  | [] => needle.isEmpty
  | c :: t => startsWith (c :: t) needle || holds needle t

/-- The text without its leading blank characters. -/
def trimStart (t : Text) : Text :=
  t.dropWhile isBlank

/-- The text without its leading and trailing blank characters. -/
def trim (t : Text) : Text :=
  (t.trimStart.reverse.dropWhile isBlank).reverse

/-- A text that begins with `start` is `start` and what follows it. -/
theorem after?_eq_some_iff {start t rest : Text} : after? start t = some rest ↔ t = start ++ rest := by
  induction start generalizing t with
  | nil => simp [after?, eq_comm]
  | cons a start ih =>
    cases t with
    | nil => simp [after?]
    | cons b t =>
      by_cases h : a = b
      · simp [after?, h, ih]
      · simp [after?, h, Ne.symm h]

end Text

end BundleHardening
