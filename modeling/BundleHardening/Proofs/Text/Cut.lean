import BundleHardening.Text.Basic
import Mathlib.Data.List.TakeWhile

/-!
# Cutting a text at a character

A text is cut in front of the first occurrence of a character.  A part without the character comes back from
the cut at the one that is put behind it (`takeWhile_ne_append`, `dropWhile_ne_append`).
-/

set_option autoImplicit false

namespace BundleHardening.Text

variable {c d : Char} {front rest t : Text}

theorem not_mem_takeWhile_ne (c : Char) (t : Text) : c ∉ t.takeWhile (· != c) := by
  intro hmem
  simpa using List.mem_takeWhile_imp hmem

theorem dropWhile_ne_append (h : c ∉ front) (rest : Text) :
    (front ++ c :: rest).dropWhile (· != c) = c :: rest := by
  rw [List.dropWhile_append_of_pos]
  · simp
  · rintro d hd
    rw [bne_iff_ne]
    rintro rfl
    exact h hd

theorem takeWhile_ne_append (h : c ∉ front) (rest : Text) :
    (front ++ c :: rest).takeWhile (· != c) = front := by
  have hboth := List.takeWhile_append_dropWhile (p := (· != c)) (l := front ++ c :: rest)
  rw [dropWhile_ne_append h] at hboth
  exact List.append_cancel_right hboth

/-- What is left behind the cut begins with the character. -/
theorem dropWhile_eq_cons (h : t.dropWhile (· != c) = d :: rest) : t.dropWhile (· != c) = c :: rest := by
  have hhead := List.head_dropWhile_not (p := (· != c)) (l := t) (h ▸ List.cons_ne_nil _ _)
  simp only [h, List.head_cons, bne_eq_false_iff_eq] at hhead
  rw [h, hhead]

end BundleHardening.Text
