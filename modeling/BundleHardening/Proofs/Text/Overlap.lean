import BundleHardening.Proofs.Text.Replacing

/-!
# Where texts can overlap

An occurrence of a mark can begin inside a text and reach beyond its end.  `overlaps` lists the places
where that can happen.  The list is computed from the two texts alone; where it is empty, the text keeps
the mark out, whatever stands around it.

What replacing exact text does to the occurrences of a mark is told by such lists.  If the mark overlaps
neither the needle nor what replaces it, it occurs behind exactly when it occurred before
(`infix_replaceAll_iff`).  The needle itself can come back; `returning` lists what it comes back from
(`ComesBack.infix_replaceAll_iff`).
-/

set_option autoImplicit false

namespace BundleHardening.Text

variable {needle new mark lead t u front rest : Text} {c : Char}

/-- The ways to cut a text in two so that an occurrence of the mark can begin at the cut and reach to the
end of the text or beyond, or lie inside. -/
def overlaps (mark : Text) : Text → List (Text × Text)
  | [] => []
  | c :: t =>
    let later := (overlaps mark t).map fun cut => (c :: cut.1, cut.2)
    if c :: t <+: mark ∨ mark <+: c :: t then ([], c :: t) :: later else later

theorem mem_overlaps_iff {front behind : Text} :
    (front, behind) ∈ overlaps mark t ↔
      t = front ++ behind ∧ behind ≠ [] ∧ (behind <+: mark ∨ mark <+: behind) := by
  induction t generalizing front with
  | nil => simp +contextual [overlaps]
  | cons c t ih =>
    rw [overlaps]
    cases front with
    | nil =>
      split
      · next hmeet => simp +contextual [eq_comm, hmeet]
      · next hmeet => simp +contextual [eq_comm, hmeet]
    | cons d front =>
      have hlater : (d :: front, behind) ∈ (overlaps mark t).map (fun cut => (c :: cut.1, cut.2)) ↔
          c = d ∧ (front, behind) ∈ overlaps mark t := by
        simp [and_comm]
      rw [List.cons_append, List.cons_eq_cons, and_assoc, ← ih, ← hlater]
      split <;> simp

example : overlaps "abab".toList "cab".toList = [("c".toList, "ab".toList)] := by
  decide +kernel

theorem overlaps_cons_eq_nil_iff :
    overlaps mark (c :: t) = [] ↔ ¬ (c :: t <+: mark ∨ mark <+: c :: t) ∧ overlaps mark t = [] := by
  rw [overlaps]
  split <;> simp [*]

/-- The text keeps the mark out: no occurrence begins in it. -/
theorem not_prefix_append (h : overlaps mark t = []) (hne : t ≠ []) (u : Text) :
    ¬ mark <+: t ++ u := by
  intro hpre
  have hmem : ([], t) ∈ overlaps mark t :=
    mem_overlaps_iff.mpr ⟨rfl, hne, List.prefix_or_prefix_of_prefix ⟨u, rfl⟩ hpre⟩
  rw [h] at hmem
  cases hmem

/-- An occurrence in two texts put together lies in the second or begins in the first. -/
theorem eq_append_or_mem_overlaps (h : front ++ (mark ++ rest) = t ++ u) :
    (∃ more, front = t ++ more ∧ u = more ++ (mark ++ rest)) ∨
      ∃ behind, (front, behind) ∈ overlaps mark t ∧ mark ++ rest = behind ++ u := by
  rcases List.append_eq_append_iff.mp h with ⟨behind, rfl, hrest⟩ | ⟨more, rfl, hu⟩
  · cases behind with
    | nil => exact Or.inl ⟨[], by simp, by simpa using hrest.symm⟩
    | cons c behind =>
      have hmeet : c :: behind <+: mark ∨ mark <+: c :: behind :=
        List.prefix_or_prefix_of_prefix ⟨u, hrest.symm⟩ ⟨rest, rfl⟩
      exact Or.inr ⟨c :: behind, mem_overlaps_iff.mpr ⟨rfl, List.cons_ne_nil c behind, hmeet⟩, hrest⟩
  · exact Or.inl ⟨more, rfl, hu⟩

/-- Where the mark occurs in two texts put together. -/
theorem infix_append_iff :
    mark <:+: t ++ u ↔
      mark <:+: u ∨ ∃ front behind, (front, behind) ∈ overlaps mark t ∧ mark <+: behind ++ u := by
  constructor
  · rintro ⟨front, rest, h⟩
    rw [List.append_assoc] at h
    rcases eq_append_or_mem_overlaps h with ⟨more, -, rfl⟩ | ⟨behind, hmem, hrest⟩
    · exact Or.inl ⟨more, rest, by rw [List.append_assoc]⟩
    · exact Or.inr ⟨front, behind, hmem, rest, hrest⟩
  · rintro (hin | ⟨front, behind, hmem, hpre⟩)
    · exact hin.trans (List.suffix_append t u).isInfix
    · obtain ⟨rfl, -, -⟩ := mem_overlaps_iff.mp hmem
      rw [List.append_assoc]
      exact hpre.isInfix.trans (List.suffix_append front (behind ++ u)).isInfix

theorem infix_append_iff_of_overlaps (h : overlaps mark t = []) :
    mark <:+: t ++ u ↔ mark <:+: u := by
  simp [infix_append_iff, h]

/-- Nothing overlaps a mark that begins with none of its characters. -/
theorem overlaps_eq_nil_of_head (hne : mark ≠ []) (h : ∀ c ∈ t, mark.head? ≠ some c) :
    overlaps mark t = [] := by
  obtain ⟨d, mark, rfl⟩ := List.exists_cons_of_ne_nil hne
  induction t with
  | nil => rfl
  | cons c t ih =>
    obtain ⟨hc, ht⟩ := List.forall_mem_cons.mp h
    have hdc : d ≠ c := fun heq => hc (congrArg some heq)
    refine overlaps_cons_eq_nil_iff.mpr ⟨?_, ih ht⟩
    rintro (hle | hle)
    · exact hdc (List.cons_prefix_cons.mp hle).1.symm
    · exact hdc (List.cons_prefix_cons.mp hle).1

theorem overlaps_append_eq_nil (ht : overlaps mark t = []) (hu : overlaps mark u = []) :
    overlaps mark (t ++ u) = [] := by
  induction t with
  | nil => exact hu
  | cons c t ih =>
    obtain ⟨hmeet, ht⟩ := overlaps_cons_eq_nil_iff.mp ht
    refine overlaps_cons_eq_nil_iff.mpr ⟨?_, ih ht⟩
    rintro (hle | hle)
    · exact hmeet (Or.inl ((List.prefix_append (c :: t) u).trans hle))
    · exact hmeet (List.prefix_or_prefix_of_prefix (List.prefix_append (c :: t) u) hle)

theorem overlaps_eq_nil_of_append (h : overlaps mark (t ++ u) = []) : overlaps mark u = [] := by
  induction t with
  | nil => exact h
  | cons c t ih => exact ih (overlaps_cons_eq_nil_iff.mp h).2

/-- What keeps the beginning of a mark out keeps the mark out. -/
theorem overlaps_eq_nil_of_prefix {start : Text} (hle : start <+: mark) (h : overlaps start t = []) :
    overlaps mark t = [] := by
  induction t with
  | nil => rfl
  | cons c t ih =>
    obtain ⟨hmeet, ht⟩ := overlaps_cons_eq_nil_iff.mp h
    refine overlaps_cons_eq_nil_iff.mpr ⟨?_, ih ht⟩
    rintro (hin | hin)
    · exact hmeet (List.prefix_or_prefix_of_prefix hin hle)
    · exact hmeet (Or.inr (hle.trans hin))

/-- A text without the mark keeps it out, if its end does and is too long to stand in the mark. -/
theorem overlaps_eq_nil_of_not_infix (hin : ¬ mark <:+: t ++ rest) (hrest : overlaps mark rest = [])
    (hout : ¬ rest <:+: mark) : overlaps mark (t ++ rest) = [] := by
  induction t with
  | nil => exact hrest
  | cons c t ih =>
    have hlater : t ++ rest <:+: c :: (t ++ rest) := (List.suffix_cons c _).isInfix
    refine overlaps_cons_eq_nil_iff.mpr ⟨?_, ih fun h => hin (h.trans hlater)⟩
    rintro (hle | hle)
    · exact hout ((List.suffix_append (c :: t) rest).isInfix.trans hle.isInfix)
    · exact hin hle.isInfix

/-- No mark overlaps a text that ends in a character of no mark and lacks one of its characters. -/
theorem overlaps_concat_eq_nil {d : Char} (hc : c ∉ mark) (hd : d ∈ mark) (hdt : d ∉ t ++ [c]) :
    overlaps mark (t ++ [c]) = [] := by
  induction t with
  | nil =>
    refine overlaps_cons_eq_nil_iff.mpr ⟨?_, rfl⟩
    rintro (hle | hle)
    · exact hc (hle.subset List.mem_cons_self)
    · exact hdt (hle.subset hd)
  | cons e t ih =>
    refine overlaps_cons_eq_nil_iff.mpr ⟨?_, ih fun hin => hdt (List.mem_cons_of_mem e hin)⟩
    rintro (hle | hle)
    · exact hc (hle.subset (by simp))
    · exact hdt (hle.subset hd)

/-- A character of no mark keeps what stands before it and what stands behind it apart. -/
theorem infix_append_cons_iff (hc : c ∉ mark) :
    mark <:+: t ++ c :: u ↔ mark <:+: t ∨ mark <:+: u := by
  constructor
  · rintro ⟨front, rest, h⟩
    rw [List.append_assoc] at h
    rcases List.append_eq_append_iff.mp h with ⟨behind, rfl, hrest⟩ | ⟨more, rfl, hu⟩
    · rcases List.append_eq_append_iff.mp hrest with ⟨more, rfl, -⟩ | ⟨more, rfl, hmark⟩
      · exact Or.inl (List.infix_append' front mark more)
      · cases more with
        | nil => exact Or.inl (by simpa using (List.suffix_append front behind).isInfix)
        | cons d more =>
          refine absurd ?_ hc
          rw [(List.cons_eq_cons.mp hmark).1]
          simp
    · cases more with
      | nil =>
        cases mark with
        | nil => exact Or.inl List.nil_infix
        | cons d mark => exact absurd (by rw [(List.cons_eq_cons.mp hu).1]; simp) hc
      | cons d more =>
        have hsplit : u = more ++ (mark ++ rest) := (List.cons_eq_cons.mp hu).2
        exact Or.inr ⟨more, rest, by rw [hsplit, List.append_assoc]⟩
  · rintro (hin | hin)
    · exact hin.trans (List.prefix_append t (c :: u)).isInfix
    · exact (hin.trans (List.suffix_cons c u).isInfix).trans (List.suffix_append t (c :: u)).isInfix

/-- Neither text can overlap the other. -/
structure Apart (a b : Text) : Prop where
  left : overlaps b a = []
  right : overlaps a b = []

instance (a b : Text) : Decidable (Apart a b) :=
  decidable_of_iff (overlaps b a = [] ∧ overlaps a b = []) ⟨fun h => ⟨h.1, h.2⟩, fun h => ⟨h.1, h.2⟩⟩

section Replacing

/-- What begins the text with the replacements made began it before, or reaches into a replacement. -/
theorem prefix_or_overlap_of_prefix_replaceAll (hne : needle ≠ [])
    (h : mark <+: replaceAll needle new t) :
    mark <+: t ∨ ∃ front behind, (front, behind) ∈ overlaps new mark ∧ front ++ needle <+: t := by
  induction t using replaceAll_induction hne generalizing mark with
  | nil => exact Or.inl (by rwa [replaceAll_nil hne] at h)
  | hit rest _ =>
    cases mark with
    | nil => exact Or.inl List.nil_prefix
    | cons c mark =>
      rw [replaceAll_append hne] at h
      have hmeet := List.prefix_or_prefix_of_prefix h (List.prefix_append new _)
      refine Or.inr ⟨[], c :: mark, mem_overlaps_iff.mpr ⟨rfl, List.cons_ne_nil c mark, hmeet⟩, ?_⟩
      exact List.prefix_append needle rest
  | keep c t hpre ih =>
    cases mark with
    | nil => exact Or.inl List.nil_prefix
    | cons d mark =>
      rw [replaceAll_cons hne new hpre] at h
      obtain ⟨rfl, hmark⟩ := List.cons_prefix_cons.mp h
      rcases ih hmark with hle | ⟨front, behind, hmem, hle⟩
      · exact Or.inl (List.cons_prefix_cons.mpr ⟨rfl, hle⟩)
      · obtain ⟨rfl, hbehind, hmeet⟩ := mem_overlaps_iff.mp hmem
        exact Or.inr ⟨d :: front, behind, mem_overlaps_iff.mpr ⟨rfl, hbehind, hmeet⟩,
          List.cons_prefix_cons.mpr ⟨rfl, hle⟩⟩

/-- Where the needle does not begin, a part of the text with the replacements made begins at once or lies
behind the first character. -/
theorem infix_replaceAll_cons (hne : needle ≠ []) {c : Char} (hpre : ¬ needle <+: c :: t) :
    mark <:+: replaceAll needle new (c :: t) ↔
      mark <+: replaceAll needle new (c :: t) ∨ mark <:+: replaceAll needle new t := by
  rw [replaceAll_cons hne new hpre]
  exact List.infix_cons_iff

/-- A mark that cannot begin in what replaces the needle was there before, or ends in a replacement. -/
theorem infix_or_overlap_of_infix_replaceAll (hne : needle ≠ []) (hnew : overlaps mark new = [])
    (h : mark <:+: replaceAll needle new t) :
    mark <:+: t ∨ ∃ front behind, (front, behind) ∈ overlaps new mark ∧ front ++ needle <:+: t := by
  induction t using replaceAll_induction hne with
  | nil => exact Or.inl (by rwa [replaceAll_nil hne] at h)
  | hit rest ih =>
    rw [replaceAll_append hne, infix_append_iff_of_overlaps hnew] at h
    have hrest : rest <:+: needle ++ rest := (List.suffix_append needle rest).isInfix
    rcases ih h with hin | ⟨front, behind, hmem, hin⟩
    · exact Or.inl (hin.trans hrest)
    · exact Or.inr ⟨front, behind, hmem, hin.trans hrest⟩
  | keep c t hpre ih =>
    have ht : t <:+: c :: t := (List.suffix_cons c t).isInfix
    rcases (infix_replaceAll_cons hne hpre).mp h with h | h
    · rcases prefix_or_overlap_of_prefix_replaceAll hne h with hle | ⟨front, behind, hmem, hle⟩
      · exact Or.inl hle.isInfix
      · exact Or.inr ⟨front, behind, hmem, hle.isInfix⟩
    · rcases ih h with hin | ⟨front, behind, hmem, hin⟩
      · exact Or.inl (hin.trans ht)
      · exact Or.inr ⟨front, behind, hmem, hin.trans ht⟩

/-- The texts that hold the needle again once its occurrences are replaced: the needle ends in a
replacement, lies in one, begins in one, or begins in one and ends in another. -/
def returning (needle new : Text) : List Text :=
  (overlaps new needle).map (fun cut => cut.1 ++ needle) ++
    (overlaps needle new).flatMap fun first =>
      if needle <+: first.2 then [needle]
      else
        let more := needle.drop first.2.length
        (needle ++ more) :: (overlaps new more).map fun last => needle ++ (last.1 ++ needle)

/-- The needle comes back in no other way. -/
theorem exists_returning_of_infix_replaceAll (hne : needle ≠ [])
    (h : needle <:+: replaceAll needle new t) : ∃ source ∈ returning needle new, source <:+: t := by
  induction t using replaceAll_induction hne with
  | nil =>
    rw [replaceAll_nil hne, List.infix_nil] at h
    exact absurd h hne
  | hit rest ih =>
    rw [replaceAll_append hne, infix_append_iff] at h
    rcases h with h | ⟨front, behind, hfirst, hpre⟩
    · obtain ⟨source, hsource, hin⟩ := ih h
      exact ⟨source, hsource, hin.trans (List.suffix_append needle rest).isInfix⟩
    · by_cases hle : needle <+: behind
      · have hmem : needle ∈ returning needle new :=
          List.mem_append_right _ (List.mem_flatMap.mpr ⟨_, hfirst, by simp [hle]⟩)
        exact ⟨needle, hmem, (List.prefix_append needle rest).isInfix⟩
      · obtain ⟨more, hsplit⟩ : behind <+: needle :=
          (List.prefix_or_prefix_of_prefix hpre (List.prefix_append behind _)).resolve_left hle
        have hdrop : needle.drop behind.length = more := by rw [← hsplit, List.drop_left]
        rw [← hsplit, List.prefix_append_right_inj, hsplit] at hpre
        rcases prefix_or_overlap_of_prefix_replaceAll hne hpre with
          hin | ⟨front', behind', hlast, hin⟩
        · have hmem : needle ++ more ∈ returning needle new :=
            List.mem_append_right _ (List.mem_flatMap.mpr ⟨_, hfirst, by simp [hle, hdrop]⟩)
          exact ⟨_, hmem, ((List.prefix_append_right_inj needle).mpr hin).isInfix⟩
        · have hmem : needle ++ (front' ++ needle) ∈ returning needle new := by
            refine List.mem_append_right _ (List.mem_flatMap.mpr ⟨_, hfirst, ?_⟩)
            rw [if_neg hle, hdrop]
            exact List.mem_cons_of_mem _ (List.mem_map.mpr ⟨_, hlast, rfl⟩)
          exact ⟨_, hmem, ((List.prefix_append_right_inj needle).mpr hin).isInfix⟩
  | keep c t hpre ih =>
    rcases (infix_replaceAll_cons hne hpre).mp h with h | h
    · rcases prefix_or_overlap_of_prefix_replaceAll hne h with hle | ⟨front, behind, hlast, hle⟩
      · exact absurd hle hpre
      · have hmem : front ++ needle ∈ returning needle new :=
          List.mem_append_left _ (List.mem_map.mpr ⟨_, hlast, rfl⟩)
        exact ⟨_, hmem, hle.isInfix⟩
    · obtain ⟨source, hsource, hin⟩ := ih h
      exact ⟨source, hsource, hin.trans (List.suffix_cons c t).isInfix⟩

/-- Replacing in front of a part and from the part on, if no occurrence reaches from the one into the
other. -/
theorem replaceAll_append_of_overlaps {part : Text} (hne : needle ≠ [])
    (h : ∀ first last, (first, last) ∈ overlaps part needle → first = [] ∨ ¬ first <:+ front)
    (new rest : Text) :
    replaceAll needle new (front ++ (part ++ rest)) =
      replaceAll needle new front ++ replaceAll needle new (part ++ rest) := by
  induction front using replaceAll_induction hne with
  | nil => rw [replaceAll_nil hne]; rfl
  | hit front ih =>
    have hlater : ∀ first last, (first, last) ∈ overlaps part needle →
        first = [] ∨ ¬ first <:+ front := fun first last hmem =>
      (h first last hmem).imp_right (mt fun hle => hle.trans (List.suffix_append needle front))
    rw [List.append_assoc, replaceAll_append hne, replaceAll_append hne, ih hlater, List.append_assoc]
  | keep c front hpre ih =>
    have hlater : ∀ first last, (first, last) ∈ overlaps part needle →
        first = [] ∨ ¬ first <:+ front := fun first last hmem =>
      (h first last hmem).imp_right (mt fun hle => hle.trans (List.suffix_cons c front))
    have hkeep : ¬ needle <+: c :: (front ++ (part ++ rest)) := by
      intro hle
      rcases List.prefix_or_prefix_of_prefix hle (List.prefix_append (c :: front) (part ++ rest)) with
        hin | ⟨last, rfl⟩
      · exact hpre hin
      · have hrest : last <+: part ++ rest :=
          (List.prefix_append_right_inj (c :: front)).mp hle
        have hlast : last ≠ [] := by
          rintro rfl
          exact hpre (by simp)
        have hmem : (c :: front, last) ∈ overlaps part ((c :: front) ++ last) :=
          mem_overlaps_iff.mpr ⟨rfl, hlast,
            (List.prefix_or_prefix_of_prefix hrest (List.prefix_append part rest))⟩
        rcases h _ _ hmem with hnil | hnot
        · exact absurd hnil (List.cons_ne_nil c front)
        · exact hnot (List.suffix_refl _)
    rw [List.cons_append, replaceAll_cons hne new hkeep, ih hlater, replaceAll_cons hne new hpre,
      List.cons_append]

/-- Replacing in a part and behind it, if no occurrence that begins in the part reaches beyond it. -/
theorem replaceAll_part_append {part : Text} (hne : needle ≠ [])
    (h : ∀ first last, (first, last) ∈ overlaps needle part → needle <+: last) (new rest : Text) :
    replaceAll needle new (part ++ rest) =
      replaceAll needle new part ++ replaceAll needle new rest := by
  induction part using replaceAll_induction hne with
  | nil => rw [replaceAll_nil hne]; rfl
  | hit part ih =>
    have hlater : ∀ first last, (first, last) ∈ overlaps needle part → needle <+: last := by
      intro first last hmem
      obtain ⟨rfl, hlast, hmeet⟩ := mem_overlaps_iff.mp hmem
      exact h (needle ++ first) last (mem_overlaps_iff.mpr ⟨by rw [List.append_assoc], hlast, hmeet⟩)
    rw [List.append_assoc, replaceAll_append hne, replaceAll_append hne, ih hlater, List.append_assoc]
  | keep c part hpre ih =>
    have hlater : ∀ first last, (first, last) ∈ overlaps needle part → needle <+: last := by
      intro first last hmem
      obtain ⟨rfl, hlast, hmeet⟩ := mem_overlaps_iff.mp hmem
      exact h (c :: first) last (mem_overlaps_iff.mpr ⟨rfl, hlast, hmeet⟩)
    have hkeep : ¬ needle <+: c :: (part ++ rest) := by
      intro hle
      have hmeet := List.prefix_or_prefix_of_prefix (List.prefix_append (c :: part) rest) hle
      exact hpre (h [] _ (mem_overlaps_iff.mpr ⟨rfl, List.cons_ne_nil c part, hmeet⟩))
    rw [List.cons_append, replaceAll_cons hne new hkeep, ih hlater, replaceAll_cons hne new hpre,
      List.cons_append]

theorem not_infix_of_overlaps (hne : needle ≠ []) (h : overlaps needle mark = []) :
    ¬ needle <:+: mark := by
  rintro ⟨front, rest, rfl⟩
  have hmem : (front, needle ++ rest) ∈ overlaps needle (front ++ needle ++ rest) :=
    mem_overlaps_iff.mpr
      ⟨by rw [List.append_assoc], by simp [hne], Or.inr (List.prefix_append needle rest)⟩
  rw [h] at hmem
  cases hmem

/-- Replacing goes past a text in which no occurrence begins. -/
theorem replaceAll_append_left {part : Text} (hne : needle ≠ []) (h : overlaps needle part = [])
    (new rest : Text) : replaceAll needle new (part ++ rest) = part ++ replaceAll needle new rest := by
  rw [replaceAll_part_append hne (fun first last hmem => by rw [h] at hmem; cases hmem),
    replaceAll_eq_self hne new (not_infix_of_overlaps hne h)]

/-- Replacing between a text at the beginning and one at the end that no occurrence can reach into. -/
theorem replaceAll_between {head tail : Text} (hne : needle ≠ []) (hhead : overlaps needle head = [])
    (htail : Apart needle tail) (new t : Text) :
    replaceAll needle new (head ++ (t ++ tail)) = head ++ (replaceAll needle new t ++ tail) := by
  have hcuts : ∀ first last, (first, last) ∈ overlaps tail needle → first = [] ∨ ¬ first <:+ t :=
    fun first last hmem => by rw [htail.left] at hmem; cases hmem
  have hlast := replaceAll_append_of_overlaps hne hcuts new []
  rw [List.append_nil, replaceAll_eq_self hne new (not_infix_of_overlaps hne htail.right)] at hlast
  rw [replaceAll_append_left hne hhead, hlast]

/-- A replacement shorter than the needle leaves a text as it is only if there is nothing to replace. -/
theorem replaceAll_eq_self_iff (hne : needle ≠ []) (hnew : new.length < needle.length) :
    replaceAll needle new t = t ↔ ¬ needle <:+: t := by
  refine ⟨fun heq hin => ?_, replaceAll_eq_self hne new⟩
  have hlen : (replaceAll needle new t).length ≤ t.length ∧
      (needle <:+: t → (replaceAll needle new t).length < t.length) := by
    clear heq hin
    induction t using replaceAll_induction hne with
    | nil => simp [replaceAll_nil hne, hne]
    | hit rest ih =>
      rw [replaceAll_append hne, List.length_append, List.length_append]
      have hrest := ih.1
      exact ⟨by omega, fun _ => by omega⟩
    | keep c t hpre ih =>
      rw [replaceAll_cons hne new hpre, List.infix_cons_iff, List.length_cons, List.length_cons]
      obtain ⟨hle, hlt⟩ := ih
      refine ⟨by omega, fun hin => ?_⟩
      have hless := hlt (hin.resolve_left hpre)
      omega
  have hless := hlen.2 hin
  rw [heq] at hless
  exact Nat.lt_irrefl _ hless

/-- Every occurrence of the needle lies inside the part or outside it. -/
structure Whole (needle part : Text) : Prop where
  first : ∀ cut ∈ overlaps part needle, cut.1 = []
  last : ∀ cut ∈ overlaps needle part, needle <+: cut.2

instance (needle part : Text) : Decidable (Whole needle part) :=
  decidable_of_iff ((∀ cut ∈ overlaps part needle, cut.1 = []) ∧
    ∀ cut ∈ overlaps needle part, needle <+: cut.2) ⟨fun h => ⟨h.1, h.2⟩, fun h => ⟨h.1, h.2⟩⟩

/-- Replacing in such a part can be told from the part alone. -/
theorem Whole.infix_replaceAll {part : Text} (h : Whole needle part) (hne : needle ≠ [])
    (new : Text) (hin : part <:+: t) : replaceAll needle new part <:+: replaceAll needle new t := by
  obtain ⟨front, rest, rfl⟩ := hin
  rw [List.append_assoc,
    replaceAll_append_of_overlaps hne fun first last hmem => Or.inl (h.first _ hmem),
    replaceAll_part_append hne fun first last hmem => h.last _ hmem, ← List.append_assoc]
  exact List.infix_append _ _ _

/-- The texts that a replaced needle comes back from, each of which is enough by itself. -/
structure ComesBack (needle new : Text) (sources : List Text) : Prop where
  ne_nil : needle ≠ []
  returning_eq : returning needle new = sources
  whole : ∀ source ∈ sources, Whole needle source
  back : ∀ source ∈ sources, needle <:+: replaceAll needle new source

instance (needle new : Text) (sources : List Text) : Decidable (ComesBack needle new sources) :=
  decidable_of_iff (needle ≠ [] ∧ returning needle new = sources ∧
    (∀ source ∈ sources, Whole needle source) ∧
      ∀ source ∈ sources, needle <:+: replaceAll needle new source)
    ⟨fun ⟨hne, heq, hwhole, hback⟩ => ⟨hne, heq, hwhole, hback⟩,
      fun h => ⟨h.ne_nil, h.returning_eq, h.whole, h.back⟩⟩

/-- The needle is there again exactly where a text stood that it comes back from. -/
theorem ComesBack.infix_replaceAll_iff {sources : List Text} (h : ComesBack needle new sources) :
    needle <:+: replaceAll needle new t ↔ ∃ source ∈ sources, source <:+: t := by
  constructor
  · rw [← h.returning_eq]
    exact exists_returning_of_infix_replaceAll h.ne_nil
  · rintro ⟨source, hsource, hin⟩
    exact (h.back source hsource).trans ((h.whole source hsource).infix_replaceAll h.ne_nil new hin)

/-- A mark apart from what is replaced and what is put in begins a text exactly when it begins the text
with the replacements made. -/
theorem after?_replaceAll (hne : needle ≠ []) (hneedle : Apart needle mark) (hnew : Apart new mark)
    (t : Text) :
    after? mark (replaceAll needle new t) = (after? mark t).map (replaceAll needle new) := by
  cases h : after? mark t with
  | some rest =>
    rw [after?_eq_some_iff.mp h, replaceAll_append_left hne hneedle.right, after?_append]
    rfl
  | none =>
    rw [after?_eq_none_iff] at h
    rw [Option.map_none, after?_eq_none_iff]
    intro hle
    rcases prefix_or_overlap_of_prefix_replaceAll hne hle with hin | ⟨front, behind, hmem, -⟩
    · exact h hin
    · rw [hnew.right] at hmem
      cases hmem

theorem cut?_append_of_overlaps (h : overlaps mark front = []) (t : Text) :
    Escape.cut? mark (front ++ t) =
      (Escape.cut? mark t).map fun split => (front ++ split.1, split.2) := by
  induction front with
  | nil => simp
  | cons c front ih =>
    have hnone : after? mark (c :: front ++ t) = none :=
      after?_eq_none_iff.mpr (not_prefix_append h (List.cons_ne_nil c front) t)
    rw [List.cons_append] at hnone ⊢
    rw [Escape.cut?, hnone, ih (overlaps_cons_eq_nil_iff.mp h).2]
    simp [Function.comp_def]

/-- Such a mark is found in the same places. -/
theorem cut?_replaceAll (hne : needle ≠ []) (hneedle : Apart needle mark)
    (hnew : Apart new mark) (t : Text) :
    Escape.cut? mark (replaceAll needle new t) = (Escape.cut? mark t).map fun split =>
      (replaceAll needle new split.1, replaceAll needle new split.2) := by
  have hlaw := replaceAll_append hne new
  induction t using replaceAll_induction hne with
  | nil => rw [replaceAll_nil hne]; rfl
  | hit rest ih =>
    rw [hlaw, cut?_append_of_overlaps hnew.left, ih, cut?_append_of_overlaps hneedle.left]
    simp [Function.comp_def, hlaw]
  | keep c t hpre ih =>
    have hcons := replaceAll_cons hne new hpre
    have hafter := after?_replaceAll hne hneedle hnew (c :: t)
    rw [hcons] at hafter ⊢
    rw [Escape.cut?, Escape.cut?, hafter, ih]
    cases h : after? mark (c :: t) with
    | some rest => simp [replaceAll_nil hne]
    | none =>
      cases hcut : Escape.cut? mark t with
      | none => rfl
      | some split =>
        have hleft : ¬ needle <+: c :: split.1 := fun hle => hpre <| hle.trans <| by
          rw [eq_of_cut? hcut]
          exact ⟨mark ++ split.2, rfl⟩
        simp [replaceAll_cons hne new hleft]

/-- A mark that does not overlap what is put in occurs only where it did. -/
theorem infix_of_infix_replaceAll (hne : needle ≠ []) (hnew : Apart new mark)
    (h : mark <:+: replaceAll needle new t) : mark <:+: t := by
  rcases infix_or_overlap_of_infix_replaceAll hne hnew.left h with hin | ⟨front, behind, hmem, -⟩
  · exact hin
  · rw [hnew.right] at hmem
    cases hmem

/-- A mark that overlaps neither the needle nor what replaces it occurs exactly where it did. -/
theorem infix_replaceAll_iff (hne : needle ≠ []) (hneedle : Apart needle mark) (hnew : Apart new mark) :
    mark <:+: replaceAll needle new t ↔ mark <:+: t := by
  refine ⟨infix_of_infix_replaceAll hne hnew, fun h => ?_⟩
  have hwhole : Whole needle mark := ⟨by simp [hneedle.left], by simp [hneedle.right]⟩
  have hmark := hwhole.infix_replaceAll hne new h
  rwa [replaceAll_eq_self hne new (not_infix_of_overlaps hne hneedle.right)] at hmark

end Replacing

section Lead

/-- The mark occurs without the lead in front of it. -/
def OccursWithout (lead mark t : Text) : Prop :=
  ∃ front rest, t = front ++ (mark ++ rest) ∧ ¬ lead <:+ front

variable {tail : Text}

/-- Where the lead can begin in the needle only with it, a text behind the needle ends in the lead only by
itself. -/
theorem suffix_of_suffix_append (hneedle : needle = lead ++ tail) (htail : tail ≠ [])
    (hfirst : ∀ cut ∈ overlaps lead needle, cut.1 = []) (h : lead <:+ needle ++ front) :
    lead <:+ front := by
  obtain ⟨before, h⟩ := h
  rcases List.append_eq_append_iff.mp h with ⟨part, hpart, hlead⟩ | ⟨part, -, hfront⟩
  · cases part with
    | nil => exact ⟨[], by simpa using hlead⟩
    | cons c part =>
      have hmem : (before, c :: part) ∈ overlaps lead needle :=
        mem_overlaps_iff.mpr ⟨hpart, List.cons_ne_nil c part, Or.inl ⟨front, hlead.symm⟩⟩
      have hbefore : before = [] := hfirst _ hmem
      have hlen := congrArg List.length hlead
      rw [hbefore, List.nil_append] at hpart
      rw [← hpart, hneedle, List.length_append, List.length_append] at hlen
      have hpos := List.length_pos_iff.mpr htail
      omega
  · exact ⟨part, hfront.symm⟩

/-- Replacing a needle that is the mark's beginning behind a lead leaves the mark where it stands without
the lead. -/
theorem infix_replaceAll_iff_occursWithout (hneedle : needle = lead ++ tail) (hlead : lead ≠ [])
    (hmeets : overlaps mark needle = [(lead, tail)]) (htail : tail <+: mark)
    (hmark : overlaps needle mark = []) (hnew : Apart new mark)
    (hfirst : ∀ cut ∈ overlaps lead needle, cut.1 = []) :
    mark <:+: replaceAll needle new t ↔ OccursWithout lead mark t := by
  have hne : needle ≠ [] := by simp [hneedle, hlead]
  have htailne : tail ≠ [] :=
    (mem_overlaps_iff.mp (hmeets ▸ List.mem_singleton_self (lead, tail))).2.1
  constructor
  · intro h
    induction t using replaceAll_induction hne with
    | nil =>
      rw [replaceAll_nil hne, List.infix_nil] at h
      exact ⟨[], [], by simp [h], by simp [hlead]⟩
    | hit t ih =>
      rw [replaceAll_append hne, infix_append_iff_of_overlaps hnew.left] at h
      obtain ⟨front, rest, rfl, hnot⟩ := ih h
      exact ⟨needle ++ front, rest, by rw [List.append_assoc],
        mt (suffix_of_suffix_append hneedle htailne hfirst) hnot⟩
    | keep c t hpre ih =>
      rcases (infix_replaceAll_cons hne hpre).mp h with h | h
      · rcases prefix_or_overlap_of_prefix_replaceAll hne h with ⟨rest, hle⟩ | ⟨_, _, hmem, -⟩
        · exact ⟨[], rest, hle.symm, by simp [hlead]⟩
        · rw [hnew.right] at hmem
          cases hmem
      · obtain ⟨front, rest, rfl, hnot⟩ := ih h
        refine ⟨c :: front, rest, rfl, fun hle => ?_⟩
        rcases List.suffix_cons_iff.mp hle with heq | hle
        · refine hpre ?_
          rw [← List.cons_append, ← heq, hneedle, List.prefix_append_right_inj]
          exact htail.trans (List.prefix_append mark rest)
        · exact hnot hle
  · rintro ⟨front, rest, rfl, hnot⟩
    have hcuts : ∀ first last, (first, last) ∈ overlaps mark needle → first = [] ∨ ¬ first <:+ front := by
      intro first last hmem
      rw [hmeets, List.mem_singleton, Prod.mk.injEq] at hmem
      exact Or.inr (hmem.1 ▸ hnot)
    rw [replaceAll_append_of_overlaps hne hcuts,
      replaceAll_append_left hne hmark, ← List.append_assoc]
    exact List.infix_append _ _ _

end Lead

section Each

/-- The text with one exact text after another replaced. -/
def replaceEach (pairs : List (Text × Text)) (t : Text) : Text :=
  pairs.foldl (fun t pair => replaceAll pair.1 pair.2 t) t

variable {pairs : List (Text × Text)}

theorem replaceEach_split (count : Nat) (pairs : List (Text × Text)) (t : Text) :
    replaceEach pairs t = replaceEach (pairs.drop count) (replaceEach (pairs.take count) t) := by
  rw [replaceEach, replaceEach, replaceEach, ← List.foldl_append, List.take_append_drop]

theorem replaceEach_take_succ {i : Nat} {pair : Text × Text} (h : pairs[i]? = some pair) (t : Text) :
    replaceEach (pairs.take (i + 1)) t =
      replaceAll pair.1 pair.2 (replaceEach (pairs.take i) t) := by
  rw [replaceEach, replaceEach, List.take_add_one, h, List.foldl_append]
  rfl

/-- Replacing one text after another keeps two ends that no occurrence can reach into. -/
theorem replaceEach_between {head tail : Text}
    (h : ∀ pair ∈ pairs, pair.1 ≠ [] ∧ overlaps pair.1 head = [] ∧ Apart pair.1 tail) (t : Text) :
    ∃ t', replaceEach pairs (head ++ (t ++ tail)) = head ++ (t' ++ tail) := by
  induction pairs generalizing t with
  | nil => exact ⟨t, rfl⟩
  | cons pair pairs ih =>
    obtain ⟨⟨hne, hhead, htail⟩, hpairs⟩ := List.forall_mem_cons.mp h
    obtain ⟨t', ht'⟩ := ih hpairs (replaceAll pair.1 pair.2 t)
    refine ⟨t', ?_⟩
    rw [← ht', ← replaceAll_between hne hhead htail]
    rfl

/-- A mark apart from all that is put in occurs only where it did. -/
theorem infix_of_infix_replaceEach (h : ∀ pair ∈ pairs, pair.1 ≠ [] ∧ Apart pair.2 mark)
    (hin : mark <:+: replaceEach pairs t) : mark <:+: t := by
  induction pairs generalizing t with
  | nil => exact hin
  | cons pair pairs ih =>
    obtain ⟨⟨hne, hnew⟩, hpairs⟩ := List.forall_mem_cons.mp h
    exact infix_of_infix_replaceAll hne hnew (ih hpairs hin)

/-- The mark overlaps neither what is replaced nor what is put in. -/
structure Spares (pair : Text × Text) (mark : Text) : Prop where
  ne_nil : pair.1 ≠ []
  needle : Apart pair.1 mark
  new : Apart pair.2 mark

instance (pair : Text × Text) (mark : Text) : Decidable (Spares pair mark) :=
  decidable_of_iff (pair.1 ≠ [] ∧ Apart pair.1 mark ∧ Apart pair.2 mark)
    ⟨fun ⟨hne, hneedle, hnew⟩ => ⟨hne, hneedle, hnew⟩, fun h => ⟨h.ne_nil, h.needle, h.new⟩⟩

/-- A mark that all replacements spare occurs exactly where it did. -/
theorem infix_replaceEach_iff (h : ∀ pair ∈ pairs, Spares pair mark) :
    mark <:+: replaceEach pairs t ↔ mark <:+: t := by
  induction pairs generalizing t with
  | nil => rfl
  | cons pair pairs ih =>
    obtain ⟨hspares, hpairs⟩ := List.forall_mem_cons.mp h
    exact (ih hpairs).trans (infix_replaceAll_iff hspares.ne_nil hspares.needle hspares.new)

end Each

end BundleHardening.Text
