import BundleHardening.Pattern.Escape
import BundleHardening.Text.Occurrence
import Mathlib.Data.List.Infix

/-!
# Replacing exact text

The occurrences of a text that are replaced are found one after another: the laws below say so, and
`replaceAll_induction` takes a text apart in the same way.
-/

set_option autoImplicit false

namespace BundleHardening.Text

variable {needle t : Text} {c : Char}

theorem after?_append (start t : Text) : after? start (start ++ t) = some t :=
  after?_eq_some_iff.mpr rfl

theorem after?_append_text (first second t : Text) :
    after? (first ++ second) t = (after? first t).bind (after? second) := by
  induction first generalizing t with
  | nil => rfl
  | cons c first ih =>
    cases t with
    | nil => rfl
    | cons d t =>
      simp only [List.cons_append, after?]
      split
      · exact ih t
      · rfl

theorem after?_eq_none_iff {start : Text} : after? start t = none ↔ ¬ start <+: t := by
  rw [← Option.not_isSome_iff_eq_none, Option.isSome_iff_exists]
  refine not_congr ⟨?_, ?_⟩
  · rintro ⟨rest, h⟩
    exact ⟨rest, (after?_eq_some_iff.mp h).symm⟩
  · rintro ⟨rest, h⟩
    exact ⟨rest, after?_eq_some_iff.mpr h.symm⟩

theorem startsWith_iff {start : Text} : startsWith t start = true ↔ start <+: t := by
  rw [startsWith, ← Bool.not_eq_false, ← not_iff_not, not_not, Option.isSome_eq_false_iff,
    Option.isNone_iff_eq_none, after?_eq_none_iff]

theorem holds_iff : holds needle t = true ↔ needle <:+: t := by
  induction t with
  | nil => simp [holds]
  | cons c t ih => rw [holds, Bool.or_eq_true, startsWith_iff, ih, List.infix_cons_iff]

/-- What stands before and behind the first place of a text in another. -/
theorem eq_of_cut? {separator left right : Text} (h : Escape.cut? separator t = some (left, right)) :
    t = left ++ (separator ++ right) := by
  induction t generalizing left right with
  | nil => cases h
  | cons c t ih =>
    rw [Escape.cut?] at h
    split at h
    · next rest hrest =>
      cases h
      have hsplit := after?_eq_some_iff.mp hrest
      exact hsplit
    · obtain ⟨⟨left', right'⟩, hcut, heq⟩ := Option.map_eq_some_iff.mp h
      cases heq
      exact congrArg (c :: ·) (ih hcut)

/-- There is no place exactly where the text is not held. -/
theorem cut?_eq_none_iff {separator : Text} (hne : separator ≠ []) :
    Escape.cut? separator t = none ↔ ¬ separator <:+: t := by
  induction t with
  | nil => simpa [Escape.cut?] using hne
  | cons c t ih =>
    rw [Escape.cut?, List.infix_cons_iff, not_or, ← ih, ← after?_eq_none_iff]
    cases after? separator (c :: t) <;> simp

section Replacing

theorem replaceFrom_drop (needle new : Text) (skip : Nat) (t : Text) :
    replaceFrom needle new skip t = replaceFrom needle new 0 (t.drop skip) := by
  induction t generalizing skip with
  | nil => cases skip <;> rfl
  | cons c t ih =>
    cases skip with
    | zero => rfl
    | succ skip => rw [replaceFrom, ih, List.drop_succ_cons]

theorem replaceAll_of_ne_nil (h : needle ≠ []) (new t : Text) :
    replaceAll needle new t = replaceFrom needle new 0 t := by
  rw [replaceAll, if_neg (by simpa using h)]

theorem replaceAll_nil (h : needle ≠ []) (new : Text) : replaceAll needle new [] = [] :=
  replaceAll_of_ne_nil h new []

/-- An occurrence is replaced, and the text behind it. -/
theorem replaceAll_append (h : needle ≠ []) (new rest : Text) :
    replaceAll needle new (needle ++ rest) = new ++ replaceAll needle new rest := by
  obtain ⟨c, tail, rfl⟩ := List.exists_cons_of_ne_nil h
  have hstart : startsWith (c :: (tail ++ rest)) (c :: tail) = true :=
    startsWith_iff.mpr (List.prefix_append (c :: tail) rest)
  rw [replaceAll_of_ne_nil h, replaceAll_of_ne_nil h, List.cons_append, replaceFrom, if_pos hstart,
    replaceFrom_drop, List.length_cons, Nat.add_sub_cancel, List.drop_left]

/-- A character at which no occurrence begins stays. -/
theorem replaceAll_cons (hne : needle ≠ []) (new : Text) (h : ¬ needle <+: c :: t) :
    replaceAll needle new (c :: t) = c :: replaceAll needle new t := by
  have hstart : ¬ startsWith (c :: t) needle = true := fun hs => h (startsWith_iff.mp hs)
  rw [replaceAll_of_ne_nil hne, replaceAll_of_ne_nil hne, replaceFrom, if_neg hstart]

/-- A text is empty, begins with an occurrence, or with a character at which none begins. -/
@[elab_as_elim]
theorem replaceAll_induction {motive : Text → Prop} (hne : needle ≠ []) (nil : motive [])
    (hit : ∀ rest, motive rest → motive (needle ++ rest))
    (keep : ∀ c t, ¬ needle <+: c :: t → motive t → motive (c :: t)) (t : Text) : motive t := by
  induction hn : t.length using Nat.strongRecOn generalizing t with
  | ind n ih =>
    by_cases h : needle <+: t
    · obtain ⟨rest, rfl⟩ := h
      have hpos := List.length_pos_iff.mpr hne
      rw [List.length_append] at hn
      exact hit rest (ih rest.length (by omega) rest rfl)
    · cases t with
      | nil => exact nil
      | cons c t => exact keep c t h (ih t.length (hn ▸ Nat.lt_succ_self _) t rfl)

/-- A text without an occurrence stays as it is. -/
theorem replaceAll_eq_self (hne : needle ≠ []) (new : Text) (h : ¬ needle <:+: t) :
    replaceAll needle new t = t := by
  induction t with
  | nil => exact replaceAll_nil hne new
  | cons c t ih =>
    rw [List.infix_cons_iff, not_or] at h
    rw [replaceAll_cons hne new h.1, ih h.2]

end Replacing

end BundleHardening.Text
