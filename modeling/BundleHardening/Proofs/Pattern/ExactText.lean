import BundleHardening.Proofs.Pattern.Literal

/-!
# Occurrences of exact text

Substituting a template for exact text is the same as replacing its occurrences, without a pattern: all of
them from the left, or the first one alone (`Substitution.substitute_exact`).  The empty text occurs before
every character and at the end, where the pattern that spells it matches nothing in each place.  The look
for the text that comes before the pattern is tried agrees with the pattern.
-/

set_option autoImplicit false

namespace BundleHardening

namespace Text

/-- Replaces the first occurrence of `needle` in the text by `new`. -/
def replaceFirst (needle new : Text) : Text → Text
  | [] => if needle.isEmpty then new else []
  | c :: t =>
    match after? needle (c :: t) with
    | some rest => new ++ rest
    | none => c :: replaceFirst needle new t

end Text

/-- Replaces the occurrences of a text that are asked for. -/
def Scope.replace : Scope → (needle new t : Text) → Text
  | all => Text.replaceAll
  | first => Text.replaceFirst

variable {needle : Text} (hne : needle ≠ []) (groups : List (Option Text))

/-! ## A text that is not empty -/

namespace Form

variable {hne groups} in
/-- Every match of exact text is the text. -/
theorem groups_of_first?_exact {t : Text} {hit : Hit}
    (h : (Form.exact needle hne groups).first? t = some hit) :
    hit.groups.groups = some needle :: groups := by
  have hread := (of_first? h).2
  obtain ⟨rest, -, hgroups⟩ := Option.map_eq_some_iff.mp hread
  rw [← hgroups]

/-- The first occurrence is replaced in its place. -/
theorem replaceFirst_eq_exact (new t : Text) :
    Text.replaceFirst needle new t =
      match (Form.exact needle hne groups).first? t with
      | none => t
      | some hit => hit.gap ++ (new ++ hit.groups.after) := by
  induction t with
  | nil => simp [Text.replaceFirst, first?, hne]
  | cons c t ih =>
    cases hafter : Text.after? needle (c :: t) with
    | some rest =>
      have hread : (Form.exact needle hne groups).read (c :: t) =
          some ⟨some needle :: groups, rest⟩ := by
        simp only [Form.exact, hafter, Option.map_some]
      simp only [Text.replaceFirst, hafter, first?_of_read _ hread, List.nil_append]
    | none =>
      have hread : (Form.exact needle hne groups).read (c :: t) = none := by
        simp only [Form.exact, hafter, Option.map_none]
      simp only [Text.replaceFirst, hafter, first?_cons _ hread, ih]
      cases (Form.exact needle hne groups).first? t <;> rfl

/-- There is a first match where the text stands somewhere. -/
theorem isSome_first?_exact (t : Text) :
    ((Form.exact needle hne groups).first? t).isSome = true ↔ needle <:+: t := by
  induction t with
  | nil => simp [first?, hne]
  | cons c t ih =>
    rw [List.infix_cons_iff, ← ih]
    by_cases hpre : needle <+: c :: t
    · obtain ⟨rest, hrest⟩ := hpre
      have hread : (Form.exact needle hne groups).read (c :: t) =
          some ⟨some needle :: groups, rest⟩ := by
        simp only [Form.exact, ← hrest, Text.after?_append, Option.map_some]
      rw [first?_of_read _ hread]
      simp only [← hrest, List.prefix_append, true_or, Option.isSome_some]
    · have hread : (Form.exact needle hne groups).read (c :: t) = none := by
        simp only [Form.exact, Text.after?_eq_none_iff.mpr hpre, Option.map_none]
      rw [first?_cons _ hread, Option.isSome_map]
      simp only [hpre, false_or]

end Form

/-! ## The empty text -/

namespace Scan

/-- The empty matches before every character of a text and at its end, with what stands before the first of
them. -/
def boundaries (gap : Text) : Text → List Hit
  | [] => [⟨gap, ⟨[some []], []⟩⟩]
  | c :: t => ⟨gap, ⟨[some []], c :: t⟩⟩ :: boundaries [c] t

/-- Something put in the place of each empty match stands before every character and at the end. -/
theorem fill_boundaries (new : Groups → Text) {out : Text} (hnew : ∀ rest, new ⟨[some []], rest⟩ = out)
    (gap t : Text) :
    fill ⟨boundaries gap t, [], false⟩ ((boundaries gap t).map fun hit => new hit.groups) =
      gap ++ Text.replaceAll [] out t := by
  induction t generalizing gap with
  | nil => simp [boundaries, fill, hnew, Text.replaceAll]
  | cons c t ih =>
    have hrest := ih [c]
    simp only [fill, Text.replaceAll, List.isEmpty_nil, if_true, List.append_nil] at hrest ⊢
    simp only [boundaries, List.map_cons, List.zip_cons_cons, List.flatMap_cons, hnew, hrest,
      List.append_assoc]

end Scan

/-- The pattern is matched in one pass, and matches nothing in every place. -/
structure Pattern.FindsEmpty (p : Pattern) : Prop where
  linear : p.engine = .linear
  found : ∀ start : Cursor, p.find start = .found ⟨start, start, []⟩

namespace Scan

variable {p : Pattern}

/-- The groups of an empty match. -/
theorem groupsOf_empty (here : Cursor) : groupsOf ⟨here, here, []⟩ = ⟨[some []], here.rest⟩ := by
  simp [groupsOf, Cursor.upTo]

/-- Without a position to go on from, the scan is at its end. -/
theorem collect_none (fuel : Nat) (limit : Option Nat) (cut : Cursor) (taken : Option Nat)
    (hits : List Hit) : collect p false fuel limit none cut taken hits = ⟨hits.reverse, cut.rest, false⟩ := by
  cases fuel <;> rfl

/-- Where no match more is asked for, the scan is at its end. -/
theorem collect_zero (fuel : Nat) (next : Option Cursor) (cut : Cursor) (taken : Option Nat)
    (hits : List Hit) :
    collect p false fuel (some 0) next cut taken hits = ⟨hits.reverse, cut.rest, false⟩ := by
  cases fuel <;> cases next <;> rfl

/-- An empty match is put down in every place from a position on. -/
theorem collect_empty (h : p.FindsEmpty) (text : Text) : ∀ (fuel : Nat) (start cut : Cursor)
    (taken : Option Nat) (hits : List Hit), start.rest = text → text.length < fuel →
      taken ≠ some start.index →
      collect p false fuel none (some start) cut taken hits =
        ⟨hits.reverse ++ boundaries (cut.upTo start) text, [], false⟩ := by
  induction text with
  | nil =>
    intro fuel start cut taken hits hrest hfuel htaken
    obtain ⟨fuel, rfl⟩ := Nat.exists_eq_add_of_lt hfuel
    have hnext : start.next? = none := by simp only [Cursor.next?, hrest]
    rw [collect]
    simp [h.found, htaken, hnext, groupsOf_empty, hrest, boundaries, collect_none]
  | cons c text ih =>
    intro fuel start cut taken hits hrest hfuel htaken
    cases fuel with
    | zero => cases hfuel
    | succ fuel =>
      have hnext : start.next? = some (start.ahead 1) := by
        simp only [Cursor.next?, Cursor.ahead, hrest]
        rfl
      have hgap : start.upTo (start.ahead 1) = [c] := by
        rw [Cursor.upTo_self_ahead, hrest]
        rfl
      have hlater := ih fuel (start.ahead 1) start (some start.index)
        (⟨cut.upTo start, ⟨[some []], c :: text⟩⟩ :: hits) (by rw [Cursor.rest_ahead, hrest]; rfl)
        (Nat.lt_of_succ_lt_succ hfuel) (by simp)
      rw [hgap] at hlater
      rw [collect]
      simp [h.found, htaken, hnext, groupsOf_empty, hrest, boundaries, hlater]

end Scan

/-! ## Patterns of exact text -/

/-- The pattern finds a text where it stands, and its matches are replaced as the occurrences are. -/
structure Pattern.Spells (p : Pattern) (needle : Text) : Prop where
  linear : p.engine = .linear
  finds : ∀ t, (∃ span, p.findIn t = .ok (some span)) ↔ needle <:+: t
  fills : ∀ (scope : Scope) (template t : Text),
    (Scan.of p scope.limit t).fill
        ((Scan.of p scope.limit t).hits.map fun hit => Template.expand hit.groups template) =
      scope.replace needle (Template.expand ⟨[some needle], []⟩ template) t

namespace Pattern

variable {p : Pattern} {hne}

/-- A pattern that finds exact text spells it. -/
theorem spells_of_finds (h : p.Finds (.exact needle hne [])) : p.Spells needle where
  linear := h.linear
  finds t := by
    rw [← Form.isSome_first?_exact hne []]
    cases hfirst : (Form.exact needle hne []).first? t with
    | none =>
      have hfind := h.misses (Cursor.start t) hfirst
      simp [findIn, hfind]
    | some hit =>
      obtain ⟨spans, hfind, -⟩ := h.takes (Cursor.start t) hit hfirst
      simp [findIn, hfind]
  fills scope template t := by
    have hexpand : ∀ rest, Template.expand ⟨[some needle], rest⟩ template =
        Template.expand ⟨[some needle], []⟩ template :=
      fun rest => Template.expand_congr (by rfl) template
    cases scope with
    | all =>
      have hrewrite : (Form.exact needle hne []).rewrite (Template.expand · template) t =
          Text.replaceAll needle (Template.expand ⟨[some needle], []⟩ template) t :=
        Form.rewrite_exact hexpand t
      rw [Scope.limit, Scan.of_all h]
      exact hrewrite
    | first =>
      rw [Scope.limit, Scan.of_first h, Scope.replace, Form.replaceFirst_eq_exact hne []]
      cases hfirst : (Form.exact needle hne []).first? t with
      | none => rfl
      | some hit =>
        have hgroups : hit.groups = ⟨[some needle], hit.groups.after⟩ := by
          rw [← Form.groups_of_first?_exact hfirst]
        have hnew : Template.expand hit.groups template =
            Template.expand ⟨[some needle], []⟩ template := by
          rw [hgroups, hexpand]
        simp [Scan.fill, hnew]

/-- A pattern that matches nothing in every place spells the empty text. -/
theorem spells_of_findsEmpty (h : p.FindsEmpty) : p.Spells [] := by
  have hengine : (p.engine == .backtracking) = false := by rw [h.linear]; rfl
  have hall (t : Text) : Scan.of p none t = ⟨Scan.boundaries [] t, [], false⟩ := by
    have hcollect := Scan.collect_empty h t (2 * t.length + 4) (Cursor.start t) (Cursor.start t) none []
      rfl (by omega) (by simp)
    have hgap : (Cursor.start t).upTo (Cursor.start t) = [] := by simp [Cursor.upTo]
    rw [hgap] at hcollect
    rw [Scan.of, hengine]
    exact hcollect
  have hfirst (t : Text) : Scan.of p (some 1) t = ⟨[⟨[], ⟨[some []], t⟩⟩], t, false⟩ := by
    have hgap : (Cursor.start t).upTo (Cursor.start t) = [] := by simp [Cursor.upTo]
    have hrest : (Cursor.start t).rest = t := rfl
    rw [Scan.of, hengine, Scan.collect]
    simp [h.found, Scan.groupsOf_empty, Scan.collect_zero, hgap, hrest]
  refine ⟨h.linear, fun t => ?_, fun scope template t => ?_⟩
  · simp [findIn, h.found]
  · have hexpand : ∀ rest, Template.expand ⟨[some []], rest⟩ template =
        Template.expand ⟨[some []], []⟩ template :=
      fun rest => Template.expand_congr (by rfl) template
    cases scope with
    | all =>
      rw [Scope.limit, hall]
      exact Scan.fill_boundaries (Template.expand · template) hexpand [] t
    | first =>
      rw [Scope.limit, hfirst]
      cases t <;> simp [Scan.fill, hexpand, Scope.replace, Text.replaceFirst, Text.after?]

/-- The empty pattern matches nothing in every place. -/
theorem findsEmpty_ofRegular (written : Text) : (ofRegular written .linear .empty).FindsEmpty where
  linear := rfl
  found start := by
    have hrun := run_ofPattern (r := .empty) rfl start
    have htries := Node.tries_ofRegular (.group 0 .empty) rfl 0
    rw [Search.earliest_eq] at hrun
    have htries' : (Node.ofPattern .empty).tries Ending.final start [] = some [(1, start), (0, start)] := by
      rw [Node.ofPattern, htries]
      rfl
    rw [htries', Option.some_or] at hrun
    simp only [find, ofRegular, hrun]
    rfl

/-- Escaped text is a pattern that spells the text. -/
theorem literal_spells (needle : Text) (hfits : (Regular.spelled needle).fits = true) :
    ∃ p, literal needle = .ok p ∧ p.Spells needle := by
  by_cases hne : needle = []
  · subst hne
    refine ⟨ofRegular [] .linear .empty, ?_, spells_of_findsEmpty (findsEmpty_ofRegular [])⟩
    rw [literal, linear?, Regular.ofText?_escape hfits]
    rfl
  · obtain ⟨p, hp, hfinds⟩ := literal_finds needle hne hfits
    exact ⟨p, hp, spells_of_finds hfinds⟩

end Pattern

/-! ## Substituting -/

namespace Text

/-- A text without an occurrence stays as it is. -/
theorem replace_eq_self {t : Text} (h : ¬ needle <:+: t) (scope : Scope) (new : Text) :
    scope.replace needle new t = t := by
  have hne : needle ≠ [] := by
    rintro rfl
    exact h List.nil_infix
  cases scope with
  | all => exact replaceAll_eq_self hne new h
  | first =>
    rw [Scope.replace, Form.replaceFirst_eq_exact hne []]
    rw [← Form.isSome_first?_exact hne [], Option.not_isSome_iff_eq_none] at h
    rw [h]

end Text

namespace Substitution

variable {s : Substitution} {p : Pattern} {template t : Text} (ctx : Context)

/-- Where the target cannot occur, nothing is changed. -/
theorem substitute_of_missing (hmay : s.target.mayOccurIn t = false) :
    s.substitute t ctx = .done none := by
  rw [substitute, hmay, if_neg Bool.false_ne_true]

/-- A template is put in the place of each match of a pattern of the linear dialect. -/
theorem substitute_of_template (hmay : s.target.mayOccurIn t = true) (hcompiled : s.target.compiled = .ok p)
    (hreplacement : s.replacement = .template template) (hlinear : p.engine = .linear) :
    s.substitute t ctx =
      .done (changed t ((Scan.of p s.scope.limit t).fill
        ((Scan.of p s.scope.limit t).hits.map fun hit => Template.expand hit.groups template))) := by
  rw [substitute, hmay, if_pos rfl, hcompiled]
  dsimp only
  rw [replaceIn_of_linear hcompiled hlinear, replacements, hreplacement]
  rfl

/-- Exact text of any kind is a pattern.  Whether a text may hold it is whether the pattern finds something.
Substituting a template for it replaces its occurrences, all or the first, by the template, expanded with the
exact text as the only group, and answers with nothing where the text comes out as it was. -/
theorem substitute_exact (needle : Text) (hfits : (Regular.spelled needle).fits = true) :
    ∃ p, (Target.exact needle).compiled = .ok p ∧
      (∀ t, (Target.exact needle).mayOccurIn t = true ↔ ∃ span, p.findIn t = .ok (some span)) ∧
      ∀ (name : String) (template : Text) (mandatory : Bool) (scope : Scope) (t : Text) (ctx : Context),
        let s := { literal name needle template with mandatory := mandatory, scope := scope }
        let out := scope.replace needle (Template.expand ⟨[some needle], []⟩ template) t
        s.substitute t ctx = .done (if out = t then none else some out) := by
  obtain ⟨p, hp, hspells⟩ := Pattern.literal_spells needle hfits
  refine ⟨p, hp, fun t => ?_, fun name template mandatory scope t ctx => ?_⟩
  · rw [hspells.finds, Target.mayOccurIn, Text.holds_iff]
  · intro s out
    cases hmay : (Target.exact needle).mayOccurIn t with
    | false =>
      have hout : ¬ needle <:+: t := by
        rw [← Text.holds_iff]
        exact Bool.eq_false_iff.mp hmay
      rw [substitute_of_missing (s := s) ctx hmay, if_pos (Text.replace_eq_self hout scope _)]
    | true =>
      rw [substitute_of_template (s := s) ctx hmay hp rfl hspells.linear,
        hspells.fills scope template t]
      rfl

/-- Text of which every character has a meaning in a pattern, found where it stands and nowhere else. -/
theorem substitute_exact_sample :
    (Regular.spelled ".*".toList).fits = true ∧
    ({ literal "star" ".*".toList "[$&$$]".toList with scope := .first }).substitute
        "a-b.*c.*".toList {} = .done (some "a-b[.*$]c.*".toList) ∧
    ({ literal "star" ".*".toList "[$&$$]".toList with scope := .all }).substitute
        "a-b.*c.*".toList {} = .done (some "a-b[.*$]c[.*$]".toList) := by
  have hfits : (Regular.spelled ".*".toList).fits = true := by decide
  obtain ⟨p, -, -, hsubstitute⟩ := substitute_exact ".*".toList hfits
  have hrun := fun scope =>
    hsubstitute "star" "[$&$$]".toList true scope "a-b.*c.*".toList {}
  exact ⟨hfits, (hrun .first).trans rfl, (hrun .all).trans rfl⟩

end Substitution

end BundleHardening
