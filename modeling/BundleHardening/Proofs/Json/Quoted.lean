import BundleHardening.Json.Quoted
import BundleHardening.Json.Reader

/-!
# Reading a written string

The escapes of a written string are undone one character at a time: behind an opening quote the reader
gives back the string and stops behind the closing quote (`string_written`).  No control character is left
in the written form (`le_of_mem_quote`), so that it stands on one line.
-/

set_option autoImplicit false

namespace BundleHardening.Json

variable {c d : Char} {t rest : Text}

/-! ## Space -/

/-- A character that is no space is not skipped. -/
theorem skipSpace_cons (h : isSpace c = false) : skipSpace (c :: rest) = c :: rest := by
  rw [skipSpace, List.dropWhile_cons_of_neg]
  simp [h]

/-! ## Joining -/

/-- Joined texts are the first, and each of the others behind a separator. -/
theorem joined_cons (separator t : Text) (ts : List Text) :
    joined separator (t :: ts) = t ++ ts.flatMap (separator ++ ·) := by
  induction ts generalizing t with
  | nil => simp [joined]
  | cons u ts ih =>
    rw [joined, ih, List.flatMap_cons, List.append_assoc, List.append_assoc]
    exact List.cons_ne_nil u ts

/-! ## Strings -/

/-- A character that needs no escape is read as it stands. -/
theorem stringFrom_plain (before : Text) (hquote : c ≠ '"') (hslash : c ≠ '\\')
    (hcontrol : ¬ c.toNat < 0x20) :
    stringFrom before (c :: rest) = stringFrom (c :: before) rest := by
  rw [stringFrom, if_neg hcontrol]
  · exact hquote
  -- the other cases of the reader begin with a backslash
  all_goals
    intros
    contradiction

/-- The two digits that are written for a control character give its number. -/
theorem unit?_hexDigit {n : Nat} (h : n < 0x20) :
    unit? '0' '0' (hexDigit (n / 16)) (hexDigit (n % 16)) = some n := by
  have hall : ∀ k < 0x20, unit? '0' '0' (hexDigit (k / 16)) (hexDigit (k % 16)) = some k := by decide
  exact hall n h

/-- The escape of a control character is read as that character. -/
theorem stringFrom_control (before : Text) (hcontrol : c.toNat < 0x20) :
    stringFrom before
        ('\\' :: 'u' :: '0' :: '0' :: hexDigit (c.toNat / 16) :: hexDigit (c.toNat % 16) :: rest) =
      stringFrom (c :: before) rest := by
  have hleading : isLeading c.toNat = false := by
    simp only [isLeading, Bool.and_eq_false_iff, decide_eq_false_iff_not]
    omega
  have htrailing : isTrailing c.toNat = false := by
    simp only [isTrailing, Bool.and_eq_false_iff, decide_eq_false_iff_not]
    omega
  rw [stringFrom, unit?_hexDigit hcontrol]
  simp only [hleading, htrailing, Bool.false_eq_true, if_false, Char.ofNat_toNat]

/-- The written form of a character is read as that character. -/
theorem stringFrom_escapeChar (before : Text) :
    stringFrom before (escapeChar c ++ rest) = stringFrom (c :: before) rest := by
  unfold escapeChar
  split
  case h_8 hquote hslash _ _ _ _ _ =>
    split
    · next hcontrol => exact stringFrom_control before hcontrol
    · next hcontrol => exact stringFrom_plain before hquote hslash hcontrol
  all_goals rfl

/-- The written form of a string, up to its closing quote, is read as that string. -/
theorem stringFrom_written (before : Text) :
    stringFrom before (t.flatMap escapeChar ++ '"' :: rest) = .ok (before.reverse ++ t, rest) := by
  induction t generalizing before with
  | nil => simp [stringFrom]
  | cons c t ih =>
    rw [List.flatMap_cons, List.append_assoc, stringFrom_escapeChar, ih, List.reverse_cons,
      List.append_assoc, List.singleton_append]

/-- A written string is read back. -/
theorem string_written : string (t.flatMap escapeChar ++ '"' :: rest) = .ok (t, rest) :=
  stringFrom_written []

/-- A written string is its escaped characters between quotes. -/
theorem quote_append : quote t ++ rest = '"' :: (t.flatMap escapeChar ++ '"' :: rest) := by
  simp [quote]

/-- A written string is read back where a value is asked for. -/
theorem stringValue_quote : stringValue (quote t ++ rest) = .ok (t, rest) := by
  rw [quote_append, stringValue, skipSpace_cons rfl]
  exact string_written

/-! ## Control characters -/

/-- No control character is left in the written form of a character. -/
theorem le_of_mem_escapeChar (h : d ∈ escapeChar c) : 0x20 ≤ d.toNat := by
  have hdigit : ∀ k < 0x20, 0x20 ≤ (hexDigit (k / 16)).toNat ∧ 0x20 ≤ (hexDigit (k % 16)).toNat := by
    decide
  unfold escapeChar at h
  split at h
  case h_8 =>
    split at h
    · next hcontrol =>
      have hdigits := hdigit c.toNat hcontrol
      simp only [List.mem_cons, List.not_mem_nil, or_false] at h
      obtain rfl | rfl | rfl | rfl | rfl | rfl := h
      · decide
      · decide
      · decide
      · decide
      · exact hdigits.1
      · exact hdigits.2
    · next hcontrol =>
      obtain rfl := List.mem_singleton.mp h
      omega
  all_goals
    simp only [List.mem_cons, List.not_mem_nil, or_false] at h
    obtain rfl | rfl := h <;> decide

/-- No control character is left in a written string. -/
theorem le_of_mem_quote (h : d ∈ quote t) : 0x20 ≤ d.toNat := by
  simp only [quote, List.mem_cons, List.mem_append, List.mem_flatMap, List.not_mem_nil, or_false] at h
  obtain rfl | ⟨c, -, hc⟩ | rfl := h
  · decide
  · exact le_of_mem_escapeChar hc
  · decide

end BundleHardening.Json
