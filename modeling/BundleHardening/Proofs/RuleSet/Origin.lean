import BundleHardening.Proofs.Rule.FirstFailure
import BundleHardening.Proofs.RuleSet.Composition

/-!
# Where a refusal comes from

An error without a position reaches a rule set from a mandatory substitution in one of two ways: the
substitution changed nothing, or the function that computes its replacements raised the error
(`Substitution.assertMatched_unplaced_iff`).  The rule set fills in the position of the substitution in
both cases, but not its name.  So the position and the name in the error belong to one rule, except
where the function raised the error under another name (`RuleSet.apply_attributed`).
-/

set_option autoImplicit false

namespace BundleHardening

namespace RewriteError

/-- The error names the rule, and what the rule looks for. -/
def Names (e : RewriteError) (sub : Substitution) : Prop :=
  e.rule = sub.name ∧ e.pattern = sub.target.written

/-- Filling in a position changes neither the name nor the pattern. -/
theorem names_placed_iff (e : RewriteError) (sub : Substitution) (index : Nat) (source : Text) :
    (e.placed index source).Names sub ↔ e.Names sub := by
  cases e with
  | mismatch i rule pattern chunk source => cases i <;> rfl
  | invalidPattern rule pattern reason => rfl
  | execution rule pattern reason => rfl

end RewriteError

namespace Substitution

variable {sub : Substitution} {t : Text} {ctx : Context} {raised : RewriteError}

/-- The run is that of the function of the substitution for a match, with a text for each match in front of
it, and the scan comes to its end. -/
def Reaches (sub : Substitution) (t : Text) (ctx : Context) (r : Run Text) : Prop :=
  ∃ compute scan before hit after, sub.replacement = .computed compute ∧ sub.scan? t = some scan ∧
    scan.overlaps = false ∧ scan.aborted = false ∧ scan.hits = before ++ hit :: after ∧
    (∀ earlier ∈ before, ∃ new, (compute earlier.groups ctx).result = .ok new) ∧
    r = compute hit.groups ctx

/-- The function of the substitution raised the error, for the leftmost match for which it failed. -/
def RaisedBy (sub : Substitution) (t : Text) (ctx : Context) (raised : RewriteError) : Prop :=
  ∃ r, sub.Reaches t ctx r ∧ r.result = .error raised

/-- A substitution whose function fails ends in the error of the function, and leaves its events. -/
theorem Reaches.substitute {r : Run Text} (h : sub.Reaches t ctx r) (hr : r.result = .error raised) :
    (sub.substitute t ctx).result = .error raised ∧ r.events ⊆ (sub.substitute t ctx).events := by
  obtain ⟨compute, scan, before, hit, after, hcompute, hscan, hoverlaps, haborted, hhits, hbefore, rfl⟩ := h
  have heach := Run.each_of_fails (f := fun hit : Hit => compute hit.groups ctx) hbefore hr after
  rw [substitute_of_scan? hscan, replacements_of_computed hcompute, hoverlaps, haborted,
    Scan.reached_eq_hits hoverlaps, hhits, heach]
  refine ⟨rfl, ?_⟩
  simp [Run.andThen]

/-- A substitution ends in an error where its target may occur and cannot be read, where a match overlaps the
one in front of it, where its scan is aborted, and where its function raises one. -/
theorem result_eq_error_iff :
    (sub.substitute t ctx).result = .error raised ↔
      (sub.target.mayOccurIn t = true ∧ ∃ fault, sub.target.compiled = .error fault ∧
        raised = .invalidPattern sub.name sub.target.written fault.message) ∨
      (∃ scan, sub.scan? t = some scan ∧ scan.overlaps = true ∧ raised = sub.execution .overlapping) ∨
      (∃ scan, sub.scan? t = some scan ∧ scan.overlaps = false ∧ scan.aborted = true ∧
        raised = sub.execution .aborted) ∨
      sub.RaisedBy t ctx raised := by
  constructor
  · intro h
    cases hscan : sub.scan? t with
    | none =>
      rcases substitute_of_scan?_eq_none ctx hscan with hnone | ⟨hmay, fault, hcompiled, hunreadable⟩
      · rw [hnone] at h
        cases h
      · rw [hunreadable] at h
        cases h
        exact Or.inl ⟨hmay, fault, hcompiled, rfl⟩
    | some scan =>
      right
      rw [substitute_of_scan? hscan] at h
      cases hoverlaps : scan.overlaps with
      | true =>
        rw [hoverlaps] at h
        cases h
        exact Or.inl ⟨scan, rfl, hoverlaps, rfl⟩
      | false =>
        right
        rw [hoverlaps, Scan.reached_eq_hits hoverlaps] at h
        cases haborted : scan.aborted with
        | true =>
          rw [haborted] at h
          cases h
          exact Or.inl ⟨scan, rfl, hoverlaps, haborted, rfl⟩
        | false =>
          rw [haborted] at h
          cases hreplacement : sub.replacement with
          | template template =>
            rw [replacements, hreplacement] at h
            cases h
          | computed compute =>
            rw [replacements_of_computed hreplacement] at h
            cases heach : (Run.each (fun hit => compute hit.groups ctx) scan.hits).result with
            | ok texts =>
              dsimp only at h
              rw [if_neg Bool.false_ne_true, if_neg Bool.false_ne_true, Run.andThen_of_ok heach] at h
              cases h
            | error e =>
              dsimp only at h
              rw [if_neg Bool.false_ne_true, if_neg Bool.false_ne_true, Run.andThen_of_error heach] at h
              cases h
              obtain ⟨before, hit, after, hhits, hbefore, hraised⟩ :=
                Run.result_each_eq_error_iff.mp heach
              exact Or.inr ⟨_, ⟨compute, scan, before, hit, after, hreplacement, hscan, hoverlaps,
                haborted, hhits, hbefore, rfl⟩, hraised⟩
  · rintro (⟨hmay, fault, hcompiled, rfl⟩ | ⟨scan, hscan, hoverlaps, rfl⟩ |
      ⟨scan, hscan, hoverlaps, haborted, rfl⟩ | ⟨r, hreaches, hraised⟩)
    · rw [substitute, if_pos hmay, hcompiled]
      rfl
    · rw [substitute_of_scan? hscan, hoverlaps]
      rfl
    · rw [substitute_of_scan? hscan, hoverlaps, haborted]
      rfl
    · exact (hreaches.substitute hraised).1

/-- An error without a position in which a substitution ends is one that its function raised. -/
theorem result_unplaced_iff (hunplaced : raised.isUnplaced = true) :
    (sub.substitute t ctx).result = .error raised ↔ sub.RaisedBy t ctx raised := by
  rw [result_eq_error_iff]
  refine ⟨?_, fun h => Or.inr (Or.inr (Or.inr h))⟩
  rintro (⟨-, fault, -, rfl⟩ | ⟨scan, -, -, rfl⟩ | ⟨scan, -, -, -, rfl⟩ | hraised)
  · cases hunplaced
  · cases hunplaced
  · cases hunplaced
  · exact hraised

/-- An error without a position is raised where the substitution changes nothing, and by its
function. -/
theorem assertMatched_unplaced_iff :
    (sub.assertMatched t ctx).result = .error raised ∧ raised.isUnplaced = true ↔
      (sub.substitute t ctx).result = .ok none ∧ raised = sub.mismatch ctx t ∨
        sub.RaisedBy t ctx raised ∧ raised.isUnplaced = true := by
  rw [assertMatched, Run.bind_eq]
  cases hresult : (sub.substitute t ctx).result with
  | error e =>
    rw [Run.andThen_of_error hresult]
    constructor
    · rintro ⟨h, hunplaced⟩
      cases h
      exact Or.inr ⟨(result_unplaced_iff hunplaced).mp hresult, hunplaced⟩
    · rintro (⟨h, -⟩ | ⟨hraised, hunplaced⟩)
      · cases h
      · rw [(result_unplaced_iff hunplaced).mpr hraised] at hresult
        cases hresult
        exact ⟨rfl, hunplaced⟩
  | ok new =>
    rw [Run.andThen_of_ok hresult]
    have hnever : raised.isUnplaced = true → ¬sub.RaisedBy t ctx raised := fun hunplaced hraised => by
      rw [(result_unplaced_iff hunplaced).mpr hraised] at hresult
      cases hresult
    cases new with
    | some out =>
      constructor
      · rintro ⟨h, -⟩
        cases h
      · rintro (⟨h, -⟩ | ⟨hraised, hunplaced⟩)
        · cases h
        · exact absurd hraised (hnever hunplaced)
    | none =>
      constructor
      · rintro ⟨h, -⟩
        cases h
        exact Or.inl ⟨rfl, rfl⟩
      · rintro (⟨-, rfl⟩ | ⟨hraised, hunplaced⟩)
        · exact ⟨rfl, rfl⟩
        · exact absurd hraised (hnever hunplaced)

/-- An error of a substitution that has a position is that of its function. -/
theorem exists_reaches_of_index (h : (sub.substitute t ctx).result = .error raised)
    (hindex : raised.index?.isSome) : ∃ r, sub.Reaches t ctx r ∧ r.result = .error raised := by
  rcases result_eq_error_iff.mp h with
    ⟨-, fault, -, rfl⟩ | ⟨scan, -, -, rfl⟩ | ⟨scan, -, -, -, rfl⟩ | hraised
  · cases hindex
  · cases hindex
  · cases hindex
  · exact hraised

/-- An error that needs no position does not come from a substitution that changed nothing. -/
theorem result_of_assertMatched (h : (sub.assertMatched t ctx).result = .error raised)
    (hplaced : raised.isUnplaced = false) : (sub.substitute t ctx).result = .error raised := by
  rw [assertMatched, Run.bind_eq] at h
  cases hresult : (sub.substitute t ctx).result with
  | error e =>
    rw [Run.andThen_of_error hresult] at h
    cases h
    rfl
  | ok new =>
    rw [Run.andThen_of_ok hresult] at h
    cases new with
    | some out => cases h
    | none => cases h; cases hplaced

theorem names_mismatch (sub : Substitution) (ctx : Context) (t : Text) :
    (sub.mismatch ctx t).Names sub :=
  ⟨rfl, rfl⟩

end Substitution

/-- The run is that of a function of the rule, in the course of the rule on a text. -/
def Rule.Reaches (rule : Rule) (t : Text) (ctx : Context) (r : Run Text) : Prop :=
  match rule with
  | .transform f => r = f.apply t ctx
  | .substitute s => s.Reaches t ctx r

/-- A rule whose function fails ends in the error of the function, if that needs no position, and leaves its
events. -/
theorem Rule.Reaches.run {rule : Rule} {t : Text} {ctx : Context} {r : Run Text} {e : RewriteError}
    (h : rule.Reaches t ctx r) (hr : r.result = .error e) (hplaced : e.isUnplaced = false) (index : Nat)
    (source : Text) :
    (rule.run index source t ctx).result = .error e ∧ r.events ⊆ (rule.run index source t ctx).events := by
  cases rule with
  | transform f =>
    obtain rfl : r = f.apply t ctx := h
    rw [Rule.run, Run.bind_eq, Run.andThen_of_error hr]
    exact ⟨rfl, List.Subset.refl _⟩
  | substitute s =>
    obtain ⟨hresult, hevents⟩ := Substitution.Reaches.substitute h hr
    cases hmandatory : s.mandatory with
    | true =>
      rw [Substitution.run_of_error index source hmandatory hresult hplaced]
      exact ⟨rfl, hevents⟩
    | false =>
      rw [Rule.run, hmandatory, if_neg Bool.false_ne_true, Run.bind_eq, Run.andThen_of_error hresult]
      exact ⟨rfl, hevents⟩

/-- An error of a rule that has a position is that of a function, or one that the rule was given the position
for. -/
theorem Rule.exists_reaches_of_index {rule : Rule} {index : Nat} {source t : Text} {ctx : Context}
    {e : RewriteError} (h : (rule.run index source t ctx).result = .error e) (hindex : e.index?.isSome) :
    (∃ r, rule.Reaches t ctx r ∧ r.result = .error e) ∨
      ∃ s raised, rule = .substitute s ∧ s.mandatory = true ∧
        (s.assertMatched t ctx).result = .error raised ∧ raised.isUnplaced = true ∧
        raised.placed index source = e := by
  cases rule with
  | transform f =>
    cases hresult : (f.apply t ctx).result with
    | ok out =>
      rw [Rule.run, Run.bind_eq, Run.andThen_of_ok hresult] at h
      cases h
    | error e' =>
      rw [Rule.run, Run.bind_eq, Run.andThen_of_error hresult] at h
      cases h
      exact .inl ⟨_, rfl, hresult⟩
  | substitute s =>
    cases hmandatory : s.mandatory with
    | true =>
      rw [Substitution.run_eq_of_mandatory index source hmandatory] at h
      cases hmatched : (s.assertMatched t ctx).result with
      | ok out =>
        rw [Run.placed_of_ok _ _ _ hmatched, Run.andThen_of_ok hmatched] at h
        cases h
      | error raised =>
        cases hplaced : raised.isUnplaced with
        | true =>
          rw [Run.placed_of_unplaced _ _ _ hmatched hplaced] at h
          cases h
          exact .inr ⟨s, raised, rfl, hmandatory, hmatched, hplaced, rfl⟩
        | false =>
          rw [Run.placed_of_placed _ _ _ hmatched hplaced, Run.andThen_of_error hmatched] at h
          cases h
          exact .inl (Substitution.exists_reaches_of_index (Substitution.result_of_assertMatched hmatched hplaced) hindex)
    | false =>
      rw [Rule.run, hmandatory, if_neg Bool.false_ne_true, Run.bind_eq] at h
      cases hresult : (s.substitute t ctx).result with
      | error e' =>
        rw [Run.andThen_of_error hresult] at h
        cases h
        exact .inl (Substitution.exists_reaches_of_index hresult hindex)
      | ok new =>
        rw [Run.andThen_of_ok hresult] at h
        cases new <;> cases h

namespace RuleSet

variable {s : RuleSet} {t : Text} {ctx : Context} {i : Nat} {raised : RewriteError}

/-- Where a rule set gives a position, it ends in the error with that position and with the text that it
was given. -/
theorem Places.result (h : s.Places t ctx i raised) :
    (s.apply t ctx).result = .error (raised.placed i t) := by
  rw [result_apply_eq_verdict, places_iff.mp h, Verdict.result, Nat.zero_add]

/-- The position that a rule set gives an error is that of one of its rules, which is mandatory and which
the text reached.  Either the rule changed nothing, and the error names it; or its function raised
the error, for the leftmost match for which it failed, and the error names what the function named.
So the position and the name belong to the same rule, unless the function gave another name. -/
theorem apply_attributed (h : s.Places t ctx i raised) :
    ∃ sub before, s.rules[i]? = some (.substitute sub) ∧ sub.mandatory = true ∧
      ((s.take i).apply t ctx).result = .ok before ∧
      (s.apply t ctx).result = .error (raised.placed i t) ∧
      ((sub.substitute before ctx).result = .ok none ∧ raised.placed i t = sub.refusal i ctx t ∨
        sub.RaisedBy before ctx raised ∧ ∃ chunk,
          raised.placed i t = .mismatch (some i) raised.rule raised.pattern chunk t) ∧
      ((raised.placed i t).Names sub ↔ (sub.RaisedBy before ctx raised → raised.Names sub)) := by
  have hresult := h.result
  obtain ⟨sub, before, hrule, hmandatory, hbefore, hraised, hunplaced⟩ := h
  have horigin := Substitution.assertMatched_unplaced_iff.mp ⟨hraised, hunplaced⟩
  refine ⟨sub, before, hrule, hmandatory, hbefore, hresult, ?_, ?_⟩
  · rcases horigin with ⟨hnone, rfl⟩ | ⟨hby, -⟩
    · exact Or.inl ⟨hnone, rfl⟩
    · obtain ⟨chunk, hplaced⟩ := RewriteError.exists_placed_mismatch hunplaced
      exact Or.inr ⟨hby, chunk, hplaced i t⟩
  · rw [RewriteError.names_placed_iff]
    refine ⟨fun hnames _ => hnames, fun hnames => ?_⟩
    rcases horigin with ⟨-, rfl⟩ | ⟨hby, -⟩
    · exact sub.names_mismatch ctx before
    · exact hnames hby

section Sample

/-- The set that finds nothing to change is refused under its rule's own name. -/
theorem apply_attributed_demanding :
    demanding.Places "xx".toList {} 0
        (.mismatch none "absent" "zzz".toList "bootstrap" "xx".toList) ∧
      (demanding.apply "xx".toList {}).result =
        .error (.mismatch (some 0) "absent" "zzz".toList "bootstrap" "xx".toList) ∧
      ∃ sub, demanding.rules[0]? = some (.substitute sub) ∧ sub.name = "absent" := by
  obtain ⟨sub, before, hrule, -, -, hresult, -, -⟩ := apply_attributed places_demanding
  refine ⟨places_demanding, hresult, sub, hrule, ?_⟩
  cases hrule
  rfl

/-- A set with a rule whose function raises an error without a position, under another name. -/
def borrowing : RuleSet where
  name := "borrowing"
  rules := [.substitute (.regex "outer" "b".toList (.computed fun g ctx =>
    .fail (.mismatch none "inner" "inner-pattern".toList ctx.displayName g.whole)))]

/-- The error has the position of the rule, and the name and the pattern that the function gave. -/
theorem places_borrowing : ∃ raised sub, borrowing.Places "abc".toList {} 0 raised ∧
    (borrowing.apply "abc".toList {}).result =
      .error (.mismatch (some 0) "inner" "inner-pattern".toList "bootstrap" "abc".toList) ∧
    borrowing.rules[0]? = some (.substitute sub) ∧ sub.name = "outer" ∧
    sub.target.written = "b".toList := by
  have hplaces : borrowing.Places "abc".toList {} 0
      (.mismatch none "inner" "inner-pattern".toList "bootstrap" "b".toList) :=
    ⟨_, "abc".toList, rfl, rfl, rfl, rfl, rfl⟩
  exact ⟨_, _, hplaces, hplaces.result, rfl, rfl, rfl⟩

end Sample

end RuleSet

end BundleHardening
