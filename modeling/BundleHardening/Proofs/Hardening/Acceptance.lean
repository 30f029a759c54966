import BundleHardening.Proofs.Hardening.Bootstrap
import BundleHardening.Proofs.Hardening.Entered
import Mathlib.Tactic.IntervalCases

/-!
# When the runtime rules accept a text

Each rule works on what the rules before it left.  Whether it finds something there can nevertheless be
told from the text that the rules were given: the guard's entries are foreign to the exact texts, and an
exact text is spared by all that is replaced before its turn.  The one exception is the direct use of
`Symbol.toStringTag`, which also ends the feature test that is replaced first (`TagLed`); there it takes an
occurrence outside a test.

`Admits` lists what the rules ask for, and `result_apply_iff` says that the rules give a text exactly if
each finds what it asks for, and otherwise fail at the first that does not.
-/

set_option autoImplicit false

namespace BundleHardening.Bootstrap

/-- What stands in front of the tag in the feature test for it. -/
def testLead : Text :=
  "typeof Symbol !== 'undefined' && ".toList

/-- The exact texts are foreign to the entries, and longer than what replaces them. -/
theorem foreign_and_longer : ∀ pair ∈ replacements,
    Foreign pair.1 ∧ pair.2.length < pair.1.length := by
  decide +kernel

/-- The replacements spare each other's exact texts, but for the first two. -/
theorem spares_replacements : ∀ i < 5, ∀ j < 5, i ≠ j → 1 < i + j →
    ∀ other ∈ replacements[i]?, ∀ pair ∈ replacements[j]?, Text.Spares other pair.1 := by
  decide +kernel

/-- What the rule at the position asks of the text that the rules are given. -/
def Admits (t : Text) (ctx : Context) : Nat → Prop
  | 0 => ∃ out, (ObjectLiteral.guardSubstitution.substitute t ctx).result = .ok (some out) ∧ out ≠ t
  | 1 => toStringTagTest <:+: t
  | 2 => Text.OccursWithout testLead toStringTag t
  | 3 => defineProperty <:+: t
  | 4 => hasOwnProperty <:+: t
  | 5 => ownershipCheck <:+: t
  | _ => True

variable {t : Text} {i : Nat} {s : Step}

/-- A text that begins with the tag, and meets the feature test nowhere else. -/
structure TagLed (mark : Text) : Prop where
  tag : toStringTag <+: mark
  meets : Text.overlaps mark toStringTagTest = [(testLead, toStringTag)]
  test : Text.overlaps toStringTagTest mark = []
  new : Text.Apart "true".toList mark

instance (mark : Text) : Decidable (TagLed mark) :=
  decidable_of_iff (toStringTag <+: mark ∧
    Text.overlaps mark toStringTagTest = [(testLead, toStringTag)] ∧
      Text.overlaps toStringTagTest mark = [] ∧ Text.Apart "true".toList mark)
    ⟨fun ⟨htag, hmeets, htest, hnew⟩ => ⟨htag, hmeets, htest, hnew⟩,
      fun h => ⟨h.tag, h.meets, h.test, h.new⟩⟩

/-- Such a text is left by the replaced feature tests where it stood outside of one. -/
theorem TagLed.infix_replaceAll_iff {mark : Text} (h : TagLed mark) :
    mark <:+: Text.replaceAll toStringTagTest "true".toList t ↔ Text.OccursWithout testLead mark t := by
  have hmem : (testLead, toStringTag) ∈ Text.overlaps mark toStringTagTest := by
    rw [h.meets]
    exact List.mem_singleton_self _
  exact Text.infix_replaceAll_iff_occursWithout (Text.mem_overlaps_iff.mp hmem).1 (by decide) h.meets
    h.tag h.test h.new (by decide +kernel)

theorem tagLed_toStringTag : TagLed toStringTag := by
  decide +kernel

-- A tag that ends a feature test goes with it.
example : ¬ toStringTag <:+: Text.replaceAll toStringTagTest "true".toList toStringTagTest := by
  decide +kernel

/-- What is replaced before its turn spares an exact text, the tag excepted. -/
theorem spares_of_mem_take {pair before : Text × Text} (hpair : replacements[i]? = some pair)
    (hi : i ≠ 1) (h : before ∈ replacements.take i) : Text.Spares before pair.1 := by
  obtain ⟨j, hj⟩ := List.getElem?_of_mem h
  rw [List.getElem?_take] at hj
  split at hj
  · next hlt =>
    have hlast : i < 5 := (List.getElem?_eq_some_iff.mp hpair).1
    exact spares_replacements j (by omega) i hlast (by omega) (by omega) before hj pair hpair
  · cases hj

/-- Whether a replacement finds something behind the ones before it is told by the text itself. -/
theorem infix_replaceEach_iff_admits {pair : Text × Text} (hpair : replacements[i]? = some pair)
    (ctx : Context) :
    pair.1 <:+: Text.replaceEach (replacements.take i) t ↔ Admits t ctx (i + 1) := by
  have hlt : i < 5 := (List.getElem?_eq_some_iff.mp hpair).1
  have hapart (hi : i ≠ 1) : pair.1 <:+: Text.replaceEach (replacements.take i) t ↔ pair.1 <:+: t :=
    Text.infix_replaceEach_iff fun before hbefore => spares_of_mem_take hpair hi hbefore
  interval_cases i
  · cases hpair
    exact hapart (by decide)
  · cases hpair
    exact tagLed_toStringTag.infix_replaceAll_iff
  · cases hpair
    exact hapart (by decide)
  · cases hpair
    exact hapart (by decide)
  · cases hpair
    exact hapart (by decide)

theorem guard_idle_iff (ctx : Context) :
    ObjectLiteral.guard t = t ↔ ¬ Admits t ctx 0 := by
  rw [Admits, ObjectLiteral.acts_guard t ctx, changed]
  by_cases h : ObjectLiteral.guard t = t
  · simp [h, Run.done]
  · simp [h, Run.done]

/-- A step is idle in its turn exactly if the text does not hold what its rule asks for. -/
theorem idle_iff (h : steps[i]? = some s) (ctx : Context) :
    s.act (Step.all (steps.take i) t) = Step.all (steps.take i) t ↔ ¬ Admits t ctx i := by
  cases i with
  | zero =>
    cases h
    exact guard_idle_iff ctx
  | succ i =>
    have hact : (literalSteps.map Step.act)[i]? = some s.act := by
      rw [List.getElem?_map]
      exact congrArg (Option.map Step.act) h
    rw [map_act_literalSteps, List.getElem?_map] at hact
    obtain ⟨pair, hpair, hact⟩ := Option.map_eq_some_iff.mp hact
    have hmem : pair ∈ replacements := List.mem_of_getElem? hpair
    have htake : (literalSteps.take i).map Step.act =
        (replacements.take i).map fun pair => Text.replaceAll pair.1 pair.2 := by
      rw [List.map_take, map_act_literalSteps, List.map_take]
    have hall : Step.all (steps.take (i + 1)) t =
        Text.replaceEach (replacements.take i) (ObjectLiteral.guard t) :=
      Step.all_eq_replaceEach htake (ObjectLiteral.guard t)
    have hforeign : ∀ pair ∈ replacements.take i, Foreign pair.1 := fun pair hin =>
      (foreign_and_longer pair (List.mem_of_mem_take hin)).1
    obtain ⟨hneedle, hlonger⟩ := foreign_and_longer pair hmem
    rw [hall, ← hact, Text.replaceAll_eq_self_iff hneedle.ne_nil hlonger,
      ((entered_guard t).replaceEach hforeign).infix_iff hneedle,
      infix_replaceEach_iff_admits hpair ctx]

theorem result_apply (t : Text) (ctx : Context) :
    (rules.apply t ctx).result =
      match Step.firstIdle? steps t with
      | none => .ok (Step.all steps t)
      | some (i, s) => .error (s.substitution.refusal i ctx t) := by
  rw [RuleSet.apply, rules_eq_steps, RuleSet.runFrom_steps]
  cases Step.firstIdle? steps t with
  | none => rfl
  | some found => simp only [Nat.zero_add]

/-- No step is idle on a text that holds what each rule asks for. -/
theorem firstIdle?_of_admits (ctx : Context) (h : ∀ i < 6, Admits t ctx i) :
    Step.firstIdle? steps t = none :=
  Step.firstIdle?_eq_none fun i _ hs =>
    mt (idle_iff hs ctx).mp (not_not.mpr (h i (List.getElem?_eq_some_iff.mp hs).1))

/-- A text that holds what each rule asks for is guarded, and then the exact texts are replaced. -/
theorem result_apply_of_admits (ctx : Context) (h : ∀ i < 6, Admits t ctx i) :
    (rules.apply t ctx).result = .ok (Text.replaceEach replacements (ObjectLiteral.guard t)) := by
  rw [result_apply, firstIdle?_of_admits ctx h, all_steps]

/-- A text is refused at the first rule that does not find what it asks for. -/
theorem refused_of_not_admits (ctx : Context) (hi : i < 6) (hnot : ¬ Admits t ctx i)
    (hbefore : ∀ j < i, Admits t ctx j) :
    ∃ s, rules.rules[i]? = some (.substitute s) ∧
      (rules.apply t ctx).result =
        .error (.mismatch (some i) s.name s.target.written ctx.displayName t) := by
  have hlt : i < steps.length := hi
  have hs : steps[i]? = some steps[i] := List.getElem?_eq_getElem hlt
  have hidle : Step.firstIdle? steps t = some (i, steps[i]) :=
    Step.firstIdle?_eq_some hs ((idle_iff hs ctx).mpr hnot) fun j hj s' hs' =>
      mt (idle_iff hs' ctx).mp (not_not.mpr (hbefore j hj))
  refine ⟨steps[i].substitution, ?_, ?_⟩
  · rw [rules_eq_steps, List.getElem?_map, hs]
    rfl
  · rw [result_apply, hidle]
    rfl

/-- The rules give a text exactly if the text that they are given holds what each of them asks for.
Otherwise the first rule that does not find it refuses the text. -/
theorem result_apply_iff (t : Text) (ctx : Context) :
    ((∃ out, (rules.apply t ctx).result = .ok out) ↔ ∀ i < 6, Admits t ctx i) ∧
      ∀ i < 6, ¬ Admits t ctx i → (∀ j < i, Admits t ctx j) →
        ∃ s, rules.rules[i]? = some (.substitute s) ∧
          (rules.apply t ctx).result =
            .error (.mismatch (some i) s.name s.target.written ctx.displayName t) := by
  refine ⟨⟨?_, ?_⟩, fun i hi hnot hbefore => refused_of_not_admits ctx hi hnot hbefore⟩
  · rintro ⟨out, hout⟩ i
    induction i using Nat.strongRecOn with
    | ind i ih =>
      intro hi
      by_contra hnot
      obtain ⟨s, -, herror⟩ :=
        refused_of_not_admits ctx hi hnot fun j hj => ih j hj (hj.trans hi)
      rw [hout] at herror
      cases herror
  · exact fun hall => ⟨_, result_apply_of_admits ctx hall⟩

end BundleHardening.Bootstrap
