import BundleHardening.Text.Word
import Mathlib.Data.List.Basic

/-!
# The size of a table

A written table has at most as many entries as characters, so the size of a table can be bounded line
by line without reading it.
-/

set_option autoImplicit false

namespace BundleHardening

theorem length_splitOn_le {α : Type} [BEq α] (a : α) (xs : List α) :
    (xs.splitOn a).length ≤ xs.length + 1 := by
  induction xs with
  | nil => simp
  | cons x xs ih =>
    rw [List.splitOn_cons_eq_if_modifyHead]
    split
    · simpa using ih
    · simp only [List.length_modifyHead, List.length_cons]
      omega

namespace Ranges

theorem size_ofHex_nil (n : Nat) : (ofHex []).bounds.size ≤ n :=
  Nat.zero_le n

theorem size_ofHex_cons (line : List Char) {lines : List String} {n : Nat}
    (hline : line.length < 100) (h : (ofHex lines).bounds.size ≤ n) :
    (ofHex (String.ofList line :: lines)).bounds.size ≤ n + 100 := by
  have hsplit := length_splitOn_le ' ' line
  simp only [ofHex, List.size_toArray, List.length_map, List.flatMap_cons, List.length_append,
    String.toList_ofList] at h ⊢
  omega

end Ranges

theorem size_wordRanges : wordRanges.bounds.size ≤ 10000 := by
  unfold wordRanges
  dsimp only
  -- one line of the table after another
  repeat refine Ranges.size_ofHex_cons _ (by decide) ?_
  exact Ranges.size_ofHex_nil _

end BundleHardening
