import BundleHardening.Proofs.Text.Overlap

/-!
# How often a mark occurs

The occurrences of a mark in two texts put together are those of the one and those of the other, if none can
reach across the seam (`occurrences_append`).  Replacing exact text leaves their number alone, if the mark
overlaps neither what is replaced nor what is put in (`occurrences_replaceEach`).
-/

set_option autoImplicit false

namespace BundleHardening.Text

variable {needle new mark start t u : Text} {c : Char}

/-- The number of places of a text at which the mark begins. -/
def occurrences (mark : Text) : Text → Nat
  | [] => 0
  | c :: t => occurrences mark t + if mark <+: c :: t then 1 else 0

theorem occurrences_cons_of_begins (h : mark <+: c :: t) :
    occurrences mark (c :: t) = occurrences mark t + 1 := by
  rw [occurrences, if_pos h]

theorem occurrences_cons_of_not_begins (h : ¬ mark <+: c :: t) :
    occurrences mark (c :: t) = occurrences mark t := by
  rw [occurrences, if_neg h, Nat.add_zero]

/-- A first character counts alike in two texts in which the mark begins, or does not begin, alike. -/
theorem occurrences_cons_congr (h : mark <+: c :: t ↔ mark <+: c :: u)
    (hrest : occurrences mark t = occurrences mark u) :
    occurrences mark (c :: t) = occurrences mark (c :: u) := by
  rw [occurrences, occurrences, hrest, if_congr h rfl rfl]

theorem occurrences_eq_zero_iff (hne : mark ≠ []) : occurrences mark t = 0 ↔ ¬ mark <:+: t := by
  induction t with
  | nil => simpa [occurrences] using hne
  | cons c t ih =>
    rw [List.infix_cons_iff, not_or, ← ih]
    by_cases h : mark <+: c :: t
    · simp [occurrences_cons_of_begins h, h]
    · simp [occurrences_cons_of_not_begins h, h]

/-- A text that keeps the mark out adds nothing. -/
theorem occurrences_append_of_overlaps (h : overlaps mark t = []) (u : Text) :
    occurrences mark (t ++ u) = occurrences mark u := by
  induction t with
  | nil => rfl
  | cons c t ih =>
    have hpre : ¬ mark <+: c :: (t ++ u) := not_prefix_append h (List.cons_ne_nil c t) u
    rw [List.cons_append, occurrences_cons_of_not_begins hpre, ih (overlaps_cons_eq_nil_iff.mp h).2]

/-- A mark that meets what the second text begins with at its own beginning only does not reach into it. -/
theorem prefix_append_iff_of_overlaps (hstart : start <+: u)
    (h : ∀ cut ∈ overlaps start mark, cut.1 = []) (hne : t ≠ []) : mark <+: t ++ u ↔ mark <+: t := by
  refine ⟨fun hpre => ?_, fun hpre => hpre.trans (List.prefix_append t u)⟩
  rcases List.prefix_or_prefix_of_prefix hpre (List.prefix_append t u) with hin | ⟨more, rfl⟩
  · exact hin
  · cases more with
    | nil => rw [List.append_nil]
    | cons d more =>
      -- the rest of the mark would begin the second text, as what it begins with does
      have hmeet : d :: more <+: start ∨ start <+: d :: more :=
        List.prefix_or_prefix_of_prefix ((List.prefix_append_right_inj t).mp hpre) hstart
      exact absurd (h _ (mem_overlaps_iff.mpr ⟨rfl, List.cons_ne_nil d more, hmeet⟩)) hne

/-- So the occurrences are those of the two texts. -/
theorem occurrences_append (hstart : start <+: u) (h : ∀ cut ∈ overlaps start mark, cut.1 = [])
    (t : Text) : occurrences mark (t ++ u) = occurrences mark t + occurrences mark u := by
  induction t with
  | nil => rw [List.nil_append, occurrences, Nat.zero_add]
  | cons c t ih =>
    have hpre := prefix_append_iff_of_overlaps hstart h (List.cons_ne_nil c t)
    rw [List.cons_append] at hpre
    rw [List.cons_append, occurrences, occurrences, ih, if_congr hpre rfl rfl, Nat.add_right_comm]

/-- A part that the mark stays apart from leaves the occurrences before it and behind it. -/
theorem occurrences_append_part {part : Text} (h : Apart part mark) (t u : Text) :
    occurrences mark (t ++ (part ++ u)) = occurrences mark t + occurrences mark u := by
  have hcuts : ∀ cut ∈ overlaps part mark, cut.1 = [] := by
    rw [h.right]
    exact List.forall_mem_nil _
  rw [occurrences_append (List.prefix_append part u) hcuts, occurrences_append_of_overlaps h.left]

theorem prefix_replaceAll_iff (hne : needle ≠ []) (hneedle : Apart needle mark) (hnew : Apart new mark) :
    mark <+: replaceAll needle new t ↔ mark <+: t := by
  rw [← not_iff_not, ← after?_eq_none_iff, ← after?_eq_none_iff, after?_replaceAll hne hneedle hnew,
    Option.map_eq_none_iff]

/-- Replacing what the mark does not overlap leaves the number of its occurrences alone. -/
theorem occurrences_replaceAll (hne : needle ≠ []) (hneedle : Apart needle mark) (hnew : Apart new mark) :
    occurrences mark (replaceAll needle new t) = occurrences mark t := by
  induction t using replaceAll_induction hne with
  | nil => rw [replaceAll_nil hne]
  | hit rest ih =>
    rw [replaceAll_append hne, occurrences_append_of_overlaps hnew.left, ih,
      occurrences_append_of_overlaps hneedle.left]
  | keep c t hpre ih =>
    have hbegins := prefix_replaceAll_iff (t := c :: t) hne hneedle hnew
    rw [replaceAll_cons hne new hpre] at hbegins ⊢
    exact occurrences_cons_congr hbegins ih

theorem occurrences_replaceEach {pairs : List (Text × Text)} (h : ∀ pair ∈ pairs, Spares pair mark) :
    occurrences mark (replaceEach pairs t) = occurrences mark t := by
  induction pairs generalizing t with
  | nil => rfl
  | cons pair pairs ih =>
    obtain ⟨hspares, hpairs⟩ := List.forall_mem_cons.mp h
    exact (ih hpairs).trans (occurrences_replaceAll hspares.ne_nil hspares.needle hspares.new)

example : occurrences "aa".toList (replaceAll "b".toList "c".toList "aaab".toList) = 2 := by
  decide +kernel

end BundleHardening.Text
