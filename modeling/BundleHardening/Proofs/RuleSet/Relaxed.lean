import BundleHardening.Proofs.RuleSet.Verdict
import Mathlib.Data.List.Forall2

/-!
# Mandatory rules are checks

A mandatory substitution does to a text what the optional one does, and fails where that one would go on
with the text as it is.  So a rule set that gives a text gives the same text when any of its substitutions
are made optional, and one that fails has failed with the mandatory ones as well.  Where only the relaxed
rules give a text, the strict ones refuse it at a rule that was made optional
(`RuleSet.result_apply_relaxed`).
-/

set_option autoImplicit false

namespace BundleHardening

/-- The second rule is the first one, or the first one made optional. -/
inductive Rule.Relaxes : Rule → Rule → Prop where
  | same (rule : Rule) : Relaxes rule rule
  | optional {s : Substitution} (mandatory : s.mandatory = true) :
    Relaxes (.substitute s) (.substitute s.optional)

/-- The verdict of a failure is no text. -/
theorem Verdict.ofMandatory_error_ne_text (e : RewriteError) (out : Text) :
    ofMandatory (.error e) ≠ text out := by
  rw [ofMandatory]
  intro h
  split at h <;> cases h

/-- The relaxed verdict is no worse than the strict one.  It is a text where the strict one is, and that
text; and where it alone is a text, the strict verdict is the refusal by a rule that changed nothing and
was made optional. -/
structure Verdict.Eases (ctx : Context) (strict relaxed : List Rule) (v w : Verdict) : Prop where
  keeps : ∀ out, v = .text out → w = .text out
  gains : ∀ out, w = .text out → v = .text out ∨ ∃ i s before,
    strict[i]? = some (.substitute s) ∧ s.mandatory = true ∧
      relaxed[i]? = some (.substitute s.optional) ∧ v = .refused i (s.mismatch ctx before)

namespace Verdict.Eases

variable {ctx : Context} {strict relaxed : List Rule} {v w : Verdict}

/-- Every verdict eases itself. -/
theorem refl (v : Verdict) : Eases ctx strict relaxed v v where
  keeps _ h := h
  gains _ h := Or.inl h

/-- Rules that are eased from some text on are eased behind a rule that gives that text. -/
theorem behind (rule rule' : Rule) (h : Eases ctx strict relaxed v w) :
    Eases ctx (rule :: strict) (rule' :: relaxed) (v.behind 1) (w.behind 1) where
  keeps out hout := behind_eq_text_iff.mpr (h.keeps out (behind_eq_text_iff.mp hout))
  gains out hout := by
    rcases h.gains out (behind_eq_text_iff.mp hout) with hv | ⟨i, s, before, hs, hmandatory, hs', hv⟩
    · exact Or.inl (behind_eq_text_iff.mpr hv)
    · refine Or.inr ⟨i + 1, s, before, hs, hmandatory, hs', ?_⟩
      exact behind_eq_refused_iff.mpr ⟨i, hv, Nat.add_comm 1 i⟩

end Verdict.Eases

namespace Substitution

variable {s : Substitution} {t : Text} {ctx : Context}

/-- The verdict of a mandatory substitution, by what the substitution answers. -/
theorem verdict_of_mandatory (h : s.mandatory = true) :
    (Rule.substitute s).verdict t ctx =
      match (s.substitute t ctx).result with
      | .ok (some out) => .text out
      | .ok none => .refused 0 (s.mismatch ctx t)
      | .error e => .ofMandatory (.error e) := by
  rw [Rule.verdict, if_pos h, assertMatched, Run.bind_eq]
  cases hresult : (s.substitute t ctx).result with
  | ok new =>
    rw [Run.andThen_of_ok hresult]
    cases new with
    | none => rfl
    | some out => rfl
  | error e => rw [Run.andThen_of_error hresult]

/-- The verdict of the substitution made optional, by the same answer. -/
theorem verdict_optional :
    (Rule.substitute s.optional).verdict t ctx =
      match (s.substitute t ctx).result with
      | .ok (some out) => .text out
      | .ok none => .text t
      | .error e => .handedOn e := by
  have hsame : s.optional.substitute t ctx = s.substitute t ctx := rfl
  rw [Rule.verdict, if_neg (by exact Bool.false_ne_true), hsame]
  cases (s.substitute t ctx).result with
  | ok new => cases new <;> rfl
  | error e => rfl

end Substitution

namespace RuleSet

variable {strict relaxed : List Rule} {ctx : Context}

/-- A text that both rules give goes to the rules behind them; where the first rule alone fails, it is the
one to blame. -/
theorem eases_verdictOf (h : List.Forall₂ Rule.Relaxes strict relaxed) (t : Text) :
    Verdict.Eases ctx strict relaxed (verdictOf ctx strict t) (verdictOf ctx relaxed t) := by
  induction h generalizing t with
  | nil => exact .refl _
  | @cons rule rule' strict relaxed hrule _ ih =>
    rw [verdictOf, verdictOf]
    cases hrule with
    | same =>
      cases rule.verdict t ctx with
      | text out => exact (ih out).behind rule rule
      | handedOn e => exact .refl _
      | refused i raised => exact .refl _
    | @optional s hmandatory =>
      rw [Substitution.verdict_of_mandatory hmandatory, Substitution.verdict_optional]
      cases (s.substitute t ctx).result with
      | ok new =>
        cases new with
        | some out => exact (ih out).behind _ _
        | none =>
          -- The mandatory rule refuses here, whatever the rules behind the optional one come to.
          refine ⟨fun out hout => ?_, fun out _ => Or.inr ⟨0, s, t, rfl, hmandatory, rfl, rfl⟩⟩
          cases hout
      | error e =>
        refine ⟨fun out hout => ?_, fun out hout => ?_⟩
        · obtain ⟨mid, hmid, -⟩ := Verdict.andThen_eq_text_iff.mp hout
          exact absurd hmid (Verdict.ofMandatory_error_ne_text e mid)
        · cases hout

/-- A rule set gives the text that it gave when mandatory substitutions of it are made optional, and where
it fails then it failed before.  A text that it gives only then was refused at a rule that was made
optional, for that rule changed nothing. -/
theorem result_apply_relaxed {s s' : RuleSet} (h : List.Forall₂ Rule.Relaxes s.rules s'.rules)
    (t : Text) (ctx : Context) :
    (∀ out, (s.apply t ctx).result = .ok out → (s'.apply t ctx).result = .ok out) ∧
    (∀ e, (s'.apply t ctx).result = .error e → ∃ e', (s.apply t ctx).result = .error e') ∧
    ∀ out, (s'.apply t ctx).result = .ok out → (s.apply t ctx).result = .ok out ∨
      ∃ (i : Nat) (sub : Substitution), s.rules[i]? = some (.substitute sub) ∧ sub.mandatory = true ∧
        s'.rules[i]? = some (.substitute sub.optional) ∧
        (s.apply t ctx).result =
          .error (.mismatch (some i) sub.name sub.target.written ctx.displayName t) := by
  have heases : Verdict.Eases ctx s.rules s'.rules (verdictOf ctx s.rules t) (verdictOf ctx s'.rules t) :=
    eases_verdictOf h t
  have hkeeps (out : Text) (hout : (s.apply t ctx).result = .ok out) :
      (s'.apply t ctx).result = .ok out :=
    result_apply_eq_ok_iff.mpr (heases.keeps out (result_apply_eq_ok_iff.mp hout))
  refine ⟨hkeeps, fun e he => ?_, fun out hout => ?_⟩
  · cases hresult : (s.apply t ctx).result with
    | ok out =>
      rw [hkeeps out hresult] at he
      cases he
    | error e' => exact ⟨e', rfl⟩
  · rcases heases.gains out (result_apply_eq_ok_iff.mp hout) with
      hv | ⟨i, sub, before, hsub, hmandatory, hsub', hv⟩
    · exact Or.inl (result_apply_eq_ok_iff.mpr hv)
    · refine Or.inr ⟨i, sub, hsub, hmandatory, hsub', ?_⟩
      rw [result_apply_eq_verdict, hv, Verdict.result, Nat.zero_add]
      rfl

section Sample

/-- A set of which the text has to hold two letters. -/
def twoLetters : RuleSet where
  name := "two letters"
  rules := [.substitute (.literal "first" ['a'] ['x']), .substitute (.literal "second" ['b'] ['y'])]

/-- The set without the demand for the second letter. -/
def oneLetter : RuleSet where
  name := "one letter"
  rules := [.substitute (.literal "first" ['a'] ['x']),
    .substitute (Substitution.literal "second" ['b'] ['y']).optional]

theorem relaxes_oneLetter : List.Forall₂ Rule.Relaxes twoLetters.rules oneLetter.rules :=
  .cons (.same _) (.cons (.optional rfl) .nil)

/-- Both sets give the same for a text with both letters, and the relaxed one alone for a text with the
first. -/
theorem result_apply_relaxed_oneLetter :
    List.Forall₂ Rule.Relaxes twoLetters.rules oneLetter.rules ∧
    (twoLetters.apply "ab".toList {}).result = .ok "xy".toList ∧
    (oneLetter.apply "ab".toList {}).result = .ok "xy".toList ∧
    (oneLetter.apply "a".toList {}).result = .ok "x".toList ∧
    (twoLetters.apply "a".toList {}).result =
      .error (.mismatch (some 1) "second" ['b'] "bootstrap" "a".toList) := by
  have hboth : (twoLetters.apply "ab".toList {}).result = .ok "xy".toList := rfl
  have hone : (oneLetter.apply "a".toList {}).result = .ok "x".toList := rfl
  have hsame := (result_apply_relaxed relaxes_oneLetter "ab".toList {}).1 _ hboth
  refine ⟨relaxes_oneLetter, hboth, hsame, hone, ?_⟩
  rcases (result_apply_relaxed relaxes_oneLetter "a".toList {}).2.2 _ hone with
    hstrict | ⟨i, sub, hsub, -, hsub', hrefused⟩
  · cases hstrict
  · rw [hrefused]
    match i with
    | 0 =>
      cases hsub
      cases hsub'
    | 1 =>
      cases hsub
      rfl

end Sample

end RuleSet

end BundleHardening
