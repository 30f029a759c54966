import BundleHardening.Proofs.Rule

/-!
# The verdict of rules

Where a list of rules stands in a rule set, and the text that the rule set was given, show in one place
only: in an error that a mandatory rule raised without a position.  The verdict of rules on a text is
what they come to before these two are filled in, and `RuleSet.result_runFrom` reads the result of a run
off it.  `RuleSet.verdictOf_eq_refused_iff` says when a rule set fills in a position of its own.
-/

set_option autoImplicit false

namespace BundleHardening

/-- What rules come to on a text: a text, an error that is handed on as it is, or an error to which the
position of the rule that raised it is still to be given. -/
inductive Verdict where
  | text (out : Text)
  | handedOn (e : RewriteError)
  | refused (index : Nat) (raised : RewriteError)

namespace Verdict

/-- The result of rules of which the first stands at the given position of a rule set that was given
`source`. -/
def result (index : Nat) (source : Text) : Verdict → Except RewriteError Text
  | text out => .ok out
  | handedOn e => .error e
  | refused i raised => .error (raised.placed (index + i) source)

/-- The verdict of rules that stand behind `n` others. -/
def behind (n : Nat) : Verdict → Verdict
  | text out => text out
  | handedOn e => handedOn e
  | refused i raised => refused (n + i) raised

/-- Goes on with the text. -/
def andThen (v : Verdict) (next : Text → Verdict) : Verdict :=
  match v with
  | text out => next out
  | handedOn e => handedOn e
  | refused i raised => refused i raised

/-- The verdict of a computation whose errors are handed on. -/
def ofResult : Except RewriteError Text → Verdict
  | .ok out => text out
  | .error e => handedOn e

/-- The verdict of a computation whose errors are given a position if they have none. -/
def ofMandatory : Except RewriteError Text → Verdict
  | .ok out => text out
  | .error e => if e.isUnplaced then refused 0 e else handedOn e

variable {index : Nat} {source : Text}

theorem result_behind (v : Verdict) (n : Nat) :
    (v.behind n).result index source = v.result (index + n) source := by
  cases v with
  | text out => rfl
  | handedOn e => rfl
  | refused i raised => rw [behind, result, result, Nat.add_assoc]

theorem behind_behind (v : Verdict) (m n : Nat) : (v.behind m).behind n = v.behind (n + m) := by
  cases v with
  | text out => rfl
  | handedOn e => rfl
  | refused i raised => simp only [behind, Nat.add_assoc]

theorem behind_zero (v : Verdict) : v.behind 0 = v := by
  cases v with
  | text out => rfl
  | handedOn e => rfl
  | refused i raised => simp only [behind, Nat.zero_add]

theorem behind_andThen (v : Verdict) (n : Nat) (next : Text → Verdict) :
    (v.andThen next).behind n = (v.behind n).andThen fun out => (next out).behind n := by
  cases v <;> rfl

theorem andThen_andThen (v : Verdict) (next after : Text → Verdict) :
    (v.andThen next).andThen after = v.andThen fun out => (next out).andThen after := by
  cases v <;> rfl

theorem andThen_eq_text_iff {v : Verdict} {next : Text → Verdict} {out : Text} :
    v.andThen next = text out ↔ ∃ mid, v = text mid ∧ next mid = text out := by
  cases v <;> simp [andThen]

theorem behind_eq_text_iff {v : Verdict} {n : Nat} {out : Text} :
    v.behind n = text out ↔ v = text out := by
  cases v <;> simp [behind]

theorem behind_eq_refused_iff {v : Verdict} {n i : Nat} {raised : RewriteError} :
    v.behind n = refused i raised ↔ ∃ j, v = refused j raised ∧ n + j = i := by
  cases v with
  | text out => simp [behind]
  | handedOn e => simp [behind]
  | refused j e =>
    simp only [behind, refused.injEq]
    constructor
    · rintro ⟨rfl, rfl⟩
      exact ⟨j, ⟨rfl, rfl⟩, rfl⟩
    · rintro ⟨k, ⟨rfl, rfl⟩, rfl⟩
      exact ⟨rfl, rfl⟩

theorem ofMandatory_eq_refused_iff {r : Except RewriteError Text} {i : Nat} {raised : RewriteError} :
    ofMandatory r = refused i raised ↔ i = 0 ∧ r = .error raised ∧ raised.isUnplaced = true := by
  cases r with
  | ok out => simp [ofMandatory]
  | error e =>
    cases hplaced : e.isUnplaced with
    | true =>
      simp only [ofMandatory, hplaced, if_true, refused.injEq, Except.error.injEq]
      constructor
      · rintro ⟨rfl, rfl⟩
        exact ⟨rfl, rfl, hplaced⟩
      · rintro ⟨rfl, rfl, -⟩
        exact ⟨rfl, rfl⟩
    | false =>
      simp only [ofMandatory, hplaced, Bool.false_eq_true, if_false, reduceCtorEq, Except.error.injEq,
        false_iff, not_and]
      rintro - rfl hunplaced
      exact Bool.false_ne_true (hplaced.symm.trans hunplaced)

end Verdict

/-- The verdict of a rule on a text. -/
def Rule.verdict (rule : Rule) (t : Text) (ctx : Context) : Verdict :=
  match rule with
  | .transform f => .ofResult (f.apply t ctx).result
  | .substitute s =>
    if s.mandatory then .ofMandatory (s.assertMatched t ctx).result
    else .ofResult ((s.substitute t ctx).result.map (·.getD t))

/-- The result of a rule is its verdict with the position and the text given to the rule set. -/
theorem Rule.result_run (rule : Rule) (index : Nat) (source t : Text) (ctx : Context) :
    (rule.run index source t ctx).result = (rule.verdict t ctx).result index source := by
  cases rule with
  | transform f =>
    rw [run, verdict, Run.bind_eq, Run.andThen]
    cases (f.apply t ctx).result <;> rfl
  | substitute s =>
    cases hmandatory : s.mandatory with
    | true =>
      rw [Substitution.run_eq_of_mandatory index source hmandatory, verdict, if_pos hmandatory]
      cases hresult : (s.assertMatched t ctx).result with
      | ok out =>
        rw [Run.placed_of_ok _ _ _ hresult, Run.andThen_of_ok hresult]
        rfl
      | error e =>
        rw [Verdict.ofMandatory]
        cases hplaced : e.isUnplaced with
        | true =>
          rw [Run.placed_of_unplaced _ _ _ hresult hplaced]
          rfl
        | false =>
          rw [Run.placed_of_placed _ _ _ hresult hplaced, Run.andThen_of_error hresult]
          rfl
    | false =>
      rw [run, verdict, hmandatory, if_neg Bool.false_ne_true, if_neg Bool.false_ne_true, Run.bind_eq,
        Run.andThen]
      cases (s.substitute t ctx).result with
      | ok new => cases new <;> rfl
      | error e => rfl

/-- A rule refuses a text when it is mandatory and raised an error without a position. -/
theorem Rule.verdict_eq_refused_iff {rule : Rule} {t : Text} {ctx : Context} {i : Nat}
    {raised : RewriteError} :
    rule.verdict t ctx = .refused i raised ↔ i = 0 ∧ ∃ s, rule = .substitute s ∧ s.mandatory = true ∧
      (s.assertMatched t ctx).result = .error raised ∧ raised.isUnplaced = true := by
  cases rule with
  | transform f =>
    rw [verdict]
    cases (f.apply t ctx).result <;> simp [Verdict.ofResult]
  | substitute s =>
    rw [verdict]
    cases hmandatory : s.mandatory with
    | true => simp [Verdict.ofMandatory_eq_refused_iff, hmandatory]
    | false =>
      cases (s.substitute t ctx).result <;> simp [Verdict.ofResult, Except.map, hmandatory]

namespace RuleSet

/-- The verdict of rules on a text, one after another. -/
def verdictOf (ctx : Context) : List Rule → Text → Verdict
  | [], t => .text t
  | rule :: rules, t => (rule.verdict t ctx).andThen fun out => (verdictOf ctx rules out).behind 1

/-- The result of a run is the verdict of the rules with the position of the first one and the text given
to the rule set. -/
theorem result_runFrom (ctx : Context) (source : Text) (index : Nat) (rules : List Rule) (t : Text) :
    (runFrom ctx source index rules t).result = (verdictOf ctx rules t).result index source := by
  induction rules generalizing index t with
  | nil => rfl
  | cons rule rules ih =>
    have hfirst := rule.result_run index source t ctx
    rw [runFrom, Run.bind_eq, verdictOf]
    cases hverdict : rule.verdict t ctx with
    | text out =>
      rw [hverdict] at hfirst
      rw [Run.andThen_of_ok hfirst]
      exact (ih (index + 1) out).trans (Verdict.result_behind _ 1).symm
    | handedOn e =>
      rw [hverdict] at hfirst
      rw [Run.andThen_of_error hfirst]
      rfl
    | refused i raised =>
      rw [hverdict] at hfirst
      rw [Run.andThen_of_error hfirst]
      rfl

theorem result_apply_eq_verdict (s : RuleSet) (t : Text) (ctx : Context) :
    (s.apply t ctx).result = (verdictOf ctx s.rules t).result 0 t :=
  result_runFrom ctx t 0 s.rules t

theorem result_apply_eq_ok_iff {s : RuleSet} {t out : Text} {ctx : Context} :
    (s.apply t ctx).result = .ok out ↔ verdictOf ctx s.rules t = .text out := by
  rw [result_apply_eq_verdict]
  cases verdictOf ctx s.rules t <;> simp [Verdict.result]

/-- Rules refuse a text at the one of them that the text reaches and that refuses what reaches it. -/
theorem verdictOf_eq_refused_iff {ctx : Context} {rules : List Rule} {t : Text} {i : Nat}
    {raised : RewriteError} :
    verdictOf ctx rules t = .refused i raised ↔
      ∃ rule before, rules[i]? = some rule ∧ verdictOf ctx (rules.take i) t = .text before ∧
        rule.verdict before ctx = .refused 0 raised := by
  induction rules generalizing t i with
  | nil => simp [verdictOf]
  | cons first rules ih =>
    cases hfirst : first.verdict t ctx with
    | handedOn e => cases i <;> simp [verdictOf, hfirst, Verdict.andThen]
    | refused j e =>
      obtain ⟨rfl, -⟩ := Rule.verdict_eq_refused_iff.mp hfirst
      cases i <;> simp [verdictOf, hfirst, Verdict.andThen]
    | text out =>
      rw [verdictOf, hfirst, Verdict.andThen, Verdict.behind_eq_refused_iff]
      cases i with
      | zero => simp [verdictOf, hfirst]
      | succ i =>
        simp only [List.getElem?_cons_succ, List.take_succ_cons, verdictOf, hfirst, Verdict.andThen,
          Verdict.behind_eq_text_iff, ← ih]
        constructor
        · rintro ⟨j, hj, hindex⟩
          obtain rfl : j = i := by omega
          exact hj
        · exact fun h => ⟨i, h, Nat.add_comm 1 i⟩

/-- The first rules of a rule set. -/
def take (s : RuleSet) (i : Nat) : RuleSet where
  name := s.name
  rules := s.rules.take i

/-! ### The rule that fails -/

section Fails

variable {ctx : Context} {source t before : Text} {e : RewriteError}

/-- Rules fail where one of them fails that the rules before it gave a text. -/
theorem runFrom_of_fails {rules : List Rule} {index i : Nat} {rule : Rule} (hrule : rules[i]? = some rule)
    (hbefore : (runFrom ctx source index (rules.take i) t).result = .ok before)
    (hfails : (rule.run (index + i) source before ctx).result = .error e) :
    runFrom ctx source index rules t =
      ⟨(runFrom ctx source index (rules.take i) t).events ++
        (rule.run (index + i) source before ctx).events, .error e⟩ := by
  induction rules generalizing index i t with
  | nil => cases hrule
  | cons first rules ih =>
    cases i with
    | zero =>
      cases hrule
      cases hbefore
      exact Run.andThen_of_error hfails _
    | succ i =>
      rw [List.take_succ_cons, runFrom, Run.bind_eq] at hbefore ⊢
      rw [runFrom, Run.bind_eq]
      cases hfirst : (first.run index source t ctx).result with
      | error e' =>
        rw [Run.andThen_of_error hfirst] at hbefore
        cases hbefore
      | ok out =>
        rw [Run.andThen_of_ok hfirst] at hbefore
        rw [Nat.add_comm i 1, ← Nat.add_assoc] at hfails
        rw [Run.andThen_of_ok hfirst, Run.andThen_of_ok hfirst, ih hrule hbefore hfails,
          List.append_assoc, Nat.add_comm i 1, ← Nat.add_assoc]

/-- Rules that fail do so at one of them, which the rules before it gave a text. -/
theorem exists_of_runFrom_eq_error {rules : List Rule} {index : Nat}
    (h : (runFrom ctx source index rules t).result = .error e) :
    ∃ i rule before, rules[i]? = some rule ∧
      (runFrom ctx source index (rules.take i) t).result = .ok before ∧
      (rule.run (index + i) source before ctx).result = .error e := by
  induction rules generalizing index t with
  | nil => cases h
  | cons rule rules ih =>
    rw [runFrom, Run.bind_eq] at h
    cases hrule : (rule.run index source t ctx).result with
    | error e' =>
      rw [Run.andThen_of_error hrule] at h
      cases h
      exact ⟨0, rule, t, rfl, rfl, hrule⟩
    | ok out =>
      rw [Run.andThen_of_ok hrule] at h
      obtain ⟨i, later, before, hlater, hbefore, hfails⟩ := ih h
      refine ⟨i + 1, later, before, hlater, ?_, ?_⟩
      · rw [List.take_succ_cons, runFrom, Run.bind_eq, Run.andThen_of_ok hrule]
        exact hbefore
      · rwa [Nat.add_assoc, Nat.add_comm 1] at hfails

/-- A rule set ends where one of its rules fails that the rules before it gave a text: with the events up to
there, and with its error. -/
theorem apply_of_fails {s : RuleSet} {i : Nat} {rule : Rule} (hrule : s.rules[i]? = some rule)
    (hbefore : ((s.take i).apply t ctx).result = .ok before)
    (hfails : (rule.run i t before ctx).result = .error e) :
    s.apply t ctx =
      ⟨((s.take i).apply t ctx).events ++ (rule.run i t before ctx).events, .error e⟩ := by
  have hrun := runFrom_of_fails hrule hbefore ((Nat.zero_add i).symm ▸ hfails)
  rwa [Nat.zero_add] at hrun

/-- A rule set that fails does so at one of its rules. -/
theorem exists_of_apply_eq_error {s : RuleSet} (h : (s.apply t ctx).result = .error e) :
    ∃ i rule before, s.rules[i]? = some rule ∧ ((s.take i).apply t ctx).result = .ok before ∧
      (rule.run i t before ctx).result = .error e := by
  obtain ⟨i, rule, before, hrule, hbefore, hfails⟩ := exists_of_runFrom_eq_error h
  rw [Nat.zero_add] at hfails
  exact ⟨i, rule, before, hrule, hbefore, hfails⟩

end Fails

/-- The rule set gives an error its position itself: the rule at the position is mandatory, and on what
the rules before it left it raised an error that had none. -/
def Places (s : RuleSet) (t : Text) (ctx : Context) (i : Nat) (raised : RewriteError) : Prop :=
  ∃ (sub : Substitution) (before : Text), s.rules[i]? = some (.substitute sub) ∧
    sub.mandatory = true ∧ ((s.take i).apply t ctx).result = .ok before ∧
    (sub.assertMatched before ctx).result = .error raised ∧ raised.isUnplaced = true

/-- A rule set gives a position itself where its rules refuse. -/
theorem places_iff {s : RuleSet} {t : Text} {ctx : Context} {i : Nat} {raised : RewriteError} :
    s.Places t ctx i raised ↔ verdictOf ctx s.rules t = .refused i raised := by
  rw [verdictOf_eq_refused_iff]
  constructor
  · rintro ⟨sub, before, hrule, hmandatory, hbefore, hraised, hunplaced⟩
    exact ⟨.substitute sub, before, hrule, result_apply_eq_ok_iff.mp hbefore,
      Rule.verdict_eq_refused_iff.mpr ⟨rfl, sub, rfl, hmandatory, hraised, hunplaced⟩⟩
  · rintro ⟨rule, before, hrule, hbefore, hrefused⟩
    obtain ⟨-, sub, rfl, hmandatory, hraised, hunplaced⟩ := Rule.verdict_eq_refused_iff.mp hrefused
    exact ⟨sub, before, hrule, hmandatory, result_apply_eq_ok_iff.mpr hbefore, hraised, hunplaced⟩

end RuleSet

end BundleHardening
