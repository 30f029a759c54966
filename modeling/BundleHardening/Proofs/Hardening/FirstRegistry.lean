import BundleHardening.Proofs.Hardening.Registry

/-!
# The first registry of a text

The pattern for the span of a registry finds what two searches for exact text find: the first declaration of
a registry, and behind it the first declaration of the exports (`find_spanPattern`).  Text without an end or
with several ends makes no difference, nor do declarations that no exports follow.
-/

set_option autoImplicit false

namespace BundleHardening

namespace Text

variable {separator t left right : Text}

/-- No place of the text begins before the one where it is cut. -/
theorem length_le_of_cut? (h : Escape.cut? separator t = some (left, right)) {front back : Text}
    (hsplit : t = front ++ (separator ++ back)) : left.length ≤ front.length := by
  induction t generalizing left front with
  | nil => cases h
  | cons c t ih =>
    rw [Escape.cut?] at h
    split at h
    · cases h
      exact Nat.zero_le _
    · next hafter =>
      obtain ⟨⟨left', right'⟩, hcut, heq⟩ := Option.map_eq_some_iff.mp h
      cases heq
      cases front with
      | nil => exact absurd ⟨back, hsplit.symm⟩ (after?_eq_none_iff.mp hafter)
      | cons d front =>
        have hlater := ih hcut (List.cons_eq_cons.mp hsplit).2
        exact Nat.succ_le_succ hlater

end Text

namespace Form

variable {f : Form} {t s : Text}

/-- A text without a match has none at any of its positions. -/
theorem read_of_first?_eq_none (h : f.first? t = none) (hs : s <:+ t) : f.read s = none := by
  induction t with
  | nil => rw [List.suffix_nil.mp hs, f.read_nil]
  | cons c t ih =>
    cases hread : f.read (c :: t) with
    | some g => rw [f.first?_of_read hread] at h; cases h
    | none =>
      rw [f.first?_cons hread, Option.map_eq_none_iff] at h
      rcases List.suffix_cons_iff.mp hs with rfl | hs
      · exact hread
      · exact ih h hs

end Form

namespace Registry

variable {t before holder inner rest : Text} {hit : Hit}

/-- A registry in a text: what stands before it, the identifier that is declared, what stands up to the
declaration of the exports, and what stands behind. -/
structure Holds (t before holder inner rest : Text) : Prop where
  named : holder ∈ holders
  split : t = before ++ (declaration holder ++ (inner ++ (trailer ++ rest)))

/-- The first registry of a text: no declaration begins further left, and the exports are not declared
sooner. -/
structure HoldsFirst (t before holder inner rest : Text) : Prop extends
    Holds t before holder inner rest where
  leftmost : ∀ front name back, name ∈ holders → t = front ++ (declaration name ++ back) →
    before.length ≤ front.length
  nearest : ∀ front back, inner ++ (trailer ++ rest) = front ++ (trailer ++ back) →
    inner.length ≤ front.length

/-- Declarations overlap only where they are the same. -/
theorem eq_nil_of_overlaps_declaration : ∀ holder ∈ holders, ∀ name ∈ holders,
    ∀ cut ∈ Text.overlaps (declaration holder) (declaration name), cut.1 = [] := by
  decide +kernel

/-- A text has no two first registries. -/
theorem HoldsFirst.unique {before' holder' inner' rest' : Text} (h : HoldsFirst t before holder inner rest)
    (h' : HoldsFirst t before' holder' inner' rest') :
    before = before' ∧ holder = holder' ∧ inner = inner' ∧ rest = rest' := by
  have hbefore : before.length = before'.length :=
    Nat.le_antisymm (h.leftmost _ _ _ h'.named h'.split) (h'.leftmost _ _ _ h.named h.split)
  obtain ⟨rfl, hspan⟩ := List.append_inj (h.split.symm.trans h'.split) hbefore
  have hdecl : declaration? (declaration holder ++ (inner ++ (trailer ++ rest))) =
      some (holder', inner' ++ (trailer ++ rest')) := declaration?_eq_some_iff.mpr ⟨h'.named, hspan⟩
  rw [declaration?_eq_some_iff.mpr ⟨h.named, rfl⟩] at hdecl
  obtain ⟨rfl, hrest⟩ := Prod.mk.inj (Option.some.inj hdecl)
  have hinner : inner.length = inner'.length :=
    Nat.le_antisymm (h.nearest _ _ hrest) (h'.nearest _ _ hrest.symm)
  obtain ⟨rfl, htrailer⟩ := List.append_inj hrest hinner
  exact ⟨rfl, rfl, rfl, List.append_cancel_left htrailer⟩

/-- A text with a registry is matched. -/
theorem Holds.first?_ne_none (h : Holds t before holder inner rest) : spans.first? t ≠ none := by
  intro hnone
  have hsuffix : declaration holder ++ (inner ++ (trailer ++ rest)) <:+ t := ⟨before, h.split.symm⟩
  refine read_declaration_append_ne_none h.named ?_ (Form.read_of_first?_eq_none hnone hsuffix)
  exact ⟨inner, rest, List.append_assoc _ _ _⟩

/-- A declaration that stands before a registry begins one itself: the exports of the registry are declared
behind it too. -/
theorem read_ne_none_of_declaration {s name back : Text} (hholder : holder ∈ holders) (hname : name ∈ holders)
    (hne : s ≠ []) (h : s ++ (declaration holder ++ (inner ++ (trailer ++ rest))) = declaration name ++ back) :
    spans.read (declaration name ++ back) ≠ none := by
  refine read_declaration_append_ne_none hname ?_
  rcases Text.eq_append_or_mem_overlaps h with ⟨more, -, rfl⟩ | ⟨behind, hmem, -⟩
  · exact ⟨more ++ (declaration holder ++ inner), rest, by simp⟩
  · exact absurd (eq_nil_of_overlaps_declaration holder hholder name hname _ hmem) hne

/-- What is matched first is the first registry. -/
theorem exists_holdsFirst (h : spans.first? t = some hit) :
    ∃ before holder inner rest, HoldsFirst t before holder inner rest ∧
      hit = ⟨before, spanGroups holder inner rest⟩ := by
  obtain ⟨hsplit, hread⟩ := Form.of_first? h
  obtain ⟨⟨holder, middle⟩, hdecl, hcut⟩ := Option.bind_eq_some_iff.mp hread
  obtain ⟨⟨inner, rest⟩, hcut, hgroups⟩ := Option.map_eq_some_iff.mp hcut
  obtain ⟨hnamed, hmiddle⟩ := declaration?_eq_some_iff.mp hdecl
  have hinner : middle = inner ++ (trailer ++ rest) := Text.eq_of_cut? hcut
  rw [hinner] at hmiddle hcut
  refine ⟨hit.gap, holder, inner, rest, ⟨⟨hnamed, hmiddle ▸ hsplit⟩, ?_, ?_⟩, ?_⟩
  · intro front name back hname ht
    by_contra hlt
    -- the declaration stands in the text before the match, where nothing is read
    obtain ⟨s, hs⟩ : front <+: hit.gap := by
      refine List.prefix_of_prefix_length_le ⟨_, ht.symm⟩ ⟨_, hsplit.symm⟩ ?_
      omega
    have hne : s ≠ [] := by
      rintro rfl
      rw [List.append_nil] at hs
      exact hlt (hs ▸ Nat.le_refl _)
    have hback : s ++ (hit.groups.whole ++ hit.groups.after) = declaration name ++ back := by
      rw [hsplit, ← hs, List.append_assoc, List.append_cancel_left_eq] at ht
      exact ht
    have hnone := Form.read_of_gap h ⟨front, hs⟩ hne
    rw [hback] at hnone
    rw [hmiddle] at hback
    exact read_ne_none_of_declaration hnamed hname hne hback hnone
  · intro front back ht
    exact Text.length_le_of_cut? hcut ht
  · have hgroups : spanGroups holder inner rest = hit.groups := hgroups
    rw [hgroups]

/-- The pattern for a span matches a text exactly when it holds a registry.  The match is the first registry,
with the identifier as group one, and the layout is told by that identifier. -/
theorem find_spanPattern (t : Text) :
    ∃ p, Pattern.ofText spanPattern = .ok p ∧
      ((∃ f, p.find (Cursor.start t) = .found f) ↔
        ∃ before holder inner rest, Holds t before holder inner rest) ∧
      (∀ f, p.find (Cursor.start t) = .found f →
        ∃ before holder inner rest, HoldsFirst t before holder inner rest ∧
          f.first.index = before.length ∧
          f.last.index = (before ++ (declaration holder ++ (inner ++ trailer))).length ∧
          Scan.groupsOf f = spanGroups holder inner rest ∧
          detectLayout t = some (if holder = Names.require then .concatenated else .modular)) ∧
      (detectLayout t = none ↔ ¬ ∃ before holder inner rest, Holds t before holder inner rest) := by
  obtain ⟨p, hp, hfinds⟩ := spanPattern_finds
  refine ⟨p, hp, ?_⟩
  rw [detectLayout_eq, identifier?]
  cases hfirst : spans.first? t with
  | none =>
    have hnowhere := hfinds.misses (Cursor.start t) hfirst
    have hnot : ¬ ∃ before holder inner rest, Holds t before holder inner rest := by
      rintro ⟨before, holder, inner, rest, h⟩
      exact h.first?_ne_none hfirst
    rw [hnowhere]
    refine ⟨iff_of_false ?_ hnot, ?_, iff_of_true rfl hnot⟩
    · rintro ⟨f, ⟨⟩⟩
    · rintro f ⟨⟩
  | some hit =>
    obtain ⟨before, holder, inner, rest, h, rfl⟩ := exists_holdsFirst hfirst
    obtain ⟨parts, hfind, hgroups⟩ := hfinds.takes (Cursor.start t) _ hfirst
    have hholds : ∃ before holder inner rest, Holds t before holder inner rest := ⟨_, _, _, _, h.toHolds⟩
    refine ⟨iff_of_true ⟨_, hfind⟩ hholds, fun f hf => ?_,
      iff_of_false (Option.some_ne_none _) (not_not.mpr hholds)⟩
    cases hfind.symm.trans hf
    refine ⟨before, holder, inner, rest, h, ?_, ?_, hgroups, rfl⟩
    · rw [Cursor.index_ahead]
      exact Nat.zero_add _
    · rw [Cursor.index_ahead, Cursor.index_ahead, List.length_append]
      exact congrArg (· + _) (Nat.zero_add _)

end Registry

end BundleHardening
