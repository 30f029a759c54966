import BundleHardening.Hardening.MainChunk
import BundleHardening.Proofs.Hardening.HardenedSpan

/-!
# The rules for the main chunk

The three rules run one after another: module calls are replaced, the registry's span is hardened, and
the literals outside it are guarded.  `result_apply_of_none` and `result_apply_of_some` say what the run
ends in, and `located_apply_of_some` which registry it notes, all from the first span in the text with
the module calls replaced.  `of_apply` says what a run that gives a text went through.
-/

set_option autoImplicit false

namespace BundleHardening.MainChunk

open Regular

section ModuleCalls

/-- A module factory, looked up. -/
def factory : Text :=
  "__webpack_modules__[moduleId]".toList

/-- The text with the direct calls of module factories replaced by safe calls. -/
def safeCalls (t : Text) : Text :=
  Text.replaceAll "__webpack_modules__[moduleId].call(".toList
    "safeCall(__webpack_modules__[moduleId], ".toList t

/-- The rule for module calls. -/
def callSubstitution : Substitution :=
  (Substitution.regex "safe-module-call" moduleCallPattern
    (.template (Names.safeCall ++ "($1, ".toList))).optional

theorem acts_safeCalls : callSubstitution.Acts safeCalls := by
  have hne : factory ++ ".call(".toList ≠ [] := by decide
  have hread : Regular.ofText? moduleCallPattern =
      some (seq (.group 1 (spelled factory)) (spelled ".call(".toList)) := by decide +kernel
  obtain ⟨p, hp, hfinds⟩ := Pattern.finds_ofText (by decide +kernel) hread
    (reads_grouped factory ".call(".toList hne)
  have hexpand : Template.expand ⟨[some (factory ++ ".call(".toList), some factory], []⟩
      (Names.safeCall ++ "($1, ".toList) = "safeCall(__webpack_modules__[moduleId], ".toList := by
    decide +kernel
  have hrewrite : (Form.exact (factory ++ ".call(".toList) hne [some factory]).rewrite
      (Template.expand · (Names.safeCall ++ "($1, ".toList)) = safeCalls :=
    funext (Form.rewrite_exact fun rest => (Template.expand_congr rfl _).trans hexpand)
  rw [← hrewrite]
  exact Substitution.acts_of_finds hp hfinds rfl (fun ctx hits => rfl) fun t hmay => nomatch hmay

example : safeCalls "__webpack_modules__[moduleId].call(a)".toList =
    "safeCall(__webpack_modules__[moduleId], a)".toList := by
  decide +kernel

/-- Neither a module call nor what replaces it can form or break a registry. -/
theorem unmarked_calls :
    Registry.Unmarked "__webpack_modules__[moduleId].call(".toList ∧
      Registry.Unmarked "safeCall(__webpack_modules__[moduleId], ".toList := by
  decide +kernel

theorem detectLayout_safeCalls (t : Text) :
    Registry.detectLayout (safeCalls t) = Registry.detectLayout t :=
  Registry.detectLayout_replaceAll unmarked_calls.1 unmarked_calls.2 t

end ModuleCalls

section Sites

/-- The literals outside the registry, up to their braces. -/
def literalSites : List Text :=
  ["__webpack_require__.d(__webpack_exports__, \x7b".toList, "var __webpack_exports__ = \x7b".toList,
    "var __webpack_modules__ = (\x7b".toList]

theorem takes_literalSites : (choice literalSites).Takes (Text.firstOf? literalSites) :=
  takes_choice (by decide) (by decide +kernel)

/-- The text with the literals outside the registry guarded. -/
def guardSites (t : Text) : Text :=
  (Form.entry takes_literalSites).rewrite ObjectLiteral.guarded t

/-- The rule for the literals outside the registry. -/
def sitesSubstitution : Substitution :=
  .regex "exports-literal-guard" literalSitesPattern (.computed ObjectLiteral.guardEntry)

theorem acts_guardSites : sitesSubstitution.Acts guardSites := by
  have hread : Regular.ofText? literalSitesPattern = some (choice literalSites).entry := by
    decide +kernel
  obtain ⟨p, hp, hfinds⟩ := Pattern.finds_ofText (by decide +kernel) hread
    (reads_entry takes_literalSites (by decide +kernel) (by decide +kernel))
  exact Substitution.acts_of_finds hp hfinds rfl
    (fun ctx hits => Run.each_done (fun _ => rfl) hits) fun t hmay => nomatch hmay

end Sites

section Spans

variable {t : Text} {hit : Hit} (ctx : Context)

/-- The rule for the registry. -/
def registrySubstitution : Substitution :=
  (Substitution.regex Registry.ruleName Registry.spanPattern (.computed Registry.harden)).firstOnly

/-- The text with the span of the registry hardened. -/
def hardenedAt (hit : Hit) : Text :=
  hit.gap ++ (Registry.hardened hit.groups.whole ++ hit.groups.after)

theorem substitute_registry (t : Text) :
    registrySubstitution.substitute t ctx =
      match Registry.spans.first? t with
      | none => .done none
      | some hit => (Registry.harden hit.groups ctx).andThen fun new =>
          .done (changed t (hit.gap ++ (new ++ hit.groups.after))) := by
  obtain ⟨p, hp, hfinds⟩ := Registry.spanPattern_finds
  exact Substitution.substitute_first (s := registrySubstitution) hp hfinds rfl rfl rfl ctx

/-- A located span always changes. -/
theorem changed_hardenedAt (h : Registry.spans.first? t = some hit) :
    changed t (hardenedAt hit) = some (hardenedAt hit) := by
  obtain ⟨htext, hread⟩ := Form.of_first? h
  refine if_neg fun heq => (Registry.isSpan_of_read hread).hardened_ne ?_
  rw [hardenedAt, htext, List.append_cancel_left_eq, List.append_cancel_right_eq] at heq
  exact heq

theorem substitute_registry_of_none (h : Registry.spans.first? t = none) :
    registrySubstitution.substitute t ctx = .done none := by
  rw [substitute_registry, h]

theorem substitute_registry_of_some (h : Registry.spans.first? t = some hit) :
    registrySubstitution.substitute t ctx =
      ⟨Registry.located hit.groups.whole :: (Registry.runSteps hit.groups.whole ctx).events,
        (Registry.runSteps hit.groups.whole ctx).result.map fun _ => some (hardenedAt hit)⟩ := by
  have hget := (Registry.isSpan_of_read (Form.of_first? h).2).holderOf_eq.symm
  have hsub := substitute_registry ctx t
  rw [h] at hsub
  simp only [Registry.harden_eq hget] at hsub
  have hresult := Registry.result_runSteps hit.groups.whole ctx
  rw [hsub]
  cases hidle : Step.firstIdle? (Registry.stepsFor hit.groups.whole) hit.groups.whole with
  | none =>
    rw [hidle] at hresult
    rw [hresult]
    simp only [Run.andThen, Except.map, Run.done, List.append_nil]
    rw [← changed_hardenedAt h]
    rfl
  | some found =>
    rw [hidle] at hresult
    rw [hresult]
    rfl

end Spans

section Run

variable {t : Text} {hit : Hit} (ctx : Context)

theorem rules_eq : rules.rules = [.substitute callSubstitution, .substitute registrySubstitution,
    .substitute sitesSubstitution] :=
  rfl

/-- The event of the rule for module calls. -/
def callEvent (t : Text) : Event :=
  if safeCalls t = t then .optionalMissed callSubstitution.name
  else .optionalApplied callSubstitution.name

/-- The run of the rule for the registry, behind the rule for module calls. -/
def registryRun (t : Text) (ctx : Context) : Run Text :=
  (Rule.substitute registrySubstitution).run 1 t (safeCalls t) ctx

theorem apply_eq (t : Text) :
    rules.apply t ctx =
      let rest := (registryRun t ctx).andThen fun out =>
        (Rule.substitute sitesSubstitution).run 2 t out ctx
      ⟨callEvent t :: rest.events, rest.result⟩ := by
  rw [RuleSet.apply, rules_eq]
  simp only [RuleSet.runFrom, Run.bind_eq, Nat.zero_add,
    Substitution.run_optional acts_safeCalls rfl]
  simp only [Run.andThen_done]
  rfl

/-- The rule for the registry fails without one, and like the steps for the span with one. -/
theorem registryRun_of_none (h : Registry.spans.first? (safeCalls t) = none) :
    let e := registrySubstitution.refusal 1 ctx t
    registryRun t ctx = ⟨[.refused Registry.ruleName 1 e t], .error e⟩ := by
  have hsub := substitute_registry_of_none ctx h
  intro e
  rw [registryRun, Substitution.run_of_none 1 t rfl (by rw [hsub]; rfl), hsub]
  rfl

theorem registryRun_of_some (h : Registry.spans.first? (safeCalls t) = some hit) :
    let steps := Registry.runSteps hit.groups.whole ctx
    registryRun t ctx =
      match Step.firstIdle? (Registry.stepsFor hit.groups.whole) hit.groups.whole with
      | some (i, s) => ⟨Registry.located hit.groups.whole :: steps.events,
          .error (s.substitution.refusal i ctx hit.groups.whole)⟩
      | none => ⟨Registry.located hit.groups.whole :: steps.events ++
          [.mandatoryApplied Registry.ruleName], .ok (hardenedAt hit)⟩ := by
  have hsub := substitute_registry_of_some ctx h
  have hresult := Registry.result_runSteps hit.groups.whole ctx
  intro steps
  cases hidle : Step.firstIdle? (Registry.stepsFor hit.groups.whole) hit.groups.whole with
  | none =>
    rw [hidle] at hresult
    rw [registryRun, Substitution.run_of_some 1 t rfl (by rw [hsub, hresult]; rfl), hsub]
    rfl
  | some found =>
    rw [hidle] at hresult
    rw [registryRun, Substitution.run_of_error 1 t rfl (by rw [hsub, hresult]; rfl) rfl, hsub]

/-- Without a registry the rules fail. -/
theorem result_apply_of_none (h : Registry.spans.first? (safeCalls t) = none) :
    (rules.apply t ctx).result = .error (registrySubstitution.refusal 1 ctx t) := by
  rw [apply_eq, registryRun_of_none ctx h]
  rfl

/-- With a registry they fail like the steps for the span, or at the literals outside. -/
theorem result_apply_of_some (h : Registry.spans.first? (safeCalls t) = some hit) :
    (rules.apply t ctx).result =
      match Step.firstIdle? (Registry.stepsFor hit.groups.whole) hit.groups.whole with
      | some (i, s) => .error (s.substitution.refusal i ctx hit.groups.whole)
      | none =>
        if guardSites (hardenedAt hit) = hardenedAt hit then .error (sitesSubstitution.refusal 2 ctx t)
        else .ok (guardSites (hardenedAt hit)) := by
  rw [apply_eq, registryRun_of_some ctx h]
  cases Step.firstIdle? (Registry.stepsFor hit.groups.whole) hit.groups.whole with
  | none =>
    simp only [Run.ok_andThen, Substitution.run_mandatory 2 t acts_guardSites rfl]
    split <;> rfl
  | some found => rfl

variable {ctx} in
/-- Rules that give a text have found a registry, run the steps for its span to the end, and guarded a literal
outside. -/
theorem of_apply {out : Text} (h : (rules.apply t ctx).result = .ok out) :
    ∃ hit, Registry.spans.first? (safeCalls t) = some hit ∧ out = guardSites (hardenedAt hit) ∧
      (Registry.runSteps hit.groups.whole ctx).result =
        .ok (Step.all (Registry.stepsFor hit.groups.whole) hit.groups.whole) ∧
      (rules.apply t ctx).events =
        callEvent t :: Registry.located hit.groups.whole ::
          ((Registry.runSteps hit.groups.whole ctx).events ++
            [.mandatoryApplied Registry.ruleName, .mandatoryApplied sitesSubstitution.name]) := by
  cases hfirst : Registry.spans.first? (safeCalls t) with
  | none =>
    rw [result_apply_of_none ctx hfirst] at h
    cases h
  | some hit =>
    have hsteps := Registry.result_runSteps hit.groups.whole ctx
    have hrun := registryRun_of_some ctx hfirst
    rw [result_apply_of_some ctx hfirst] at h
    cases hidle : Step.firstIdle? (Registry.stepsFor hit.groups.whole) hit.groups.whole with
    | some found =>
      rw [hidle] at h
      cases h
    | none =>
      rw [hidle] at h hsteps hrun
      dsimp only at h
      split at h
      · cases h
      · next hne =>
        cases h
        refine ⟨hit, rfl, rfl, hsteps, ?_⟩
        rw [apply_eq, hrun]
        simp only [Run.ok_andThen, Substitution.run_mandatory 2 t acts_guardSites rfl, if_neg hne,
          List.cons_append, List.append_assoc]
        rfl

variable {ctx} in
/-- What the rules give is the text with the span hardened and the literals outside guarded. -/
theorem exists_hit_of_apply {out : Text} (h : (rules.apply t ctx).result = .ok out) :
    ∃ hit, Registry.spans.first? (safeCalls t) = some hit ∧ out = guardSites (hardenedAt hit) := by
  obtain ⟨hit, hfirst, hout, -⟩ := of_apply h
  exact ⟨hit, hfirst, hout⟩

/-- With a registry exactly one is noted, the one of the span. -/
theorem located_apply_of_some (h : Registry.spans.first? (safeCalls t) = some hit) :
    (rules.apply t ctx).events.filter Event.isLocated = [Registry.located hit.groups.whole] := by
  have hcall : (callEvent t).isLocated = false := by
    rw [callEvent]
    split <;> rfl
  have hspan : (Registry.located hit.groups.whole).isLocated = true := rfl
  have hsteps := Registry.located_runSteps hit.groups.whole ctx
  rw [apply_eq, registryRun_of_some ctx h]
  cases Step.firstIdle? (Registry.stepsFor hit.groups.whole) hit.groups.whole with
  | none =>
    simp only [Run.ok_andThen, Substitution.run_mandatory 2 t acts_guardSites rfl, List.cons_append,
      List.append_assoc]
    rw [List.filter_cons_of_neg (by simp [hcall]), List.filter_cons_of_pos hspan, List.filter_append,
      hsteps]
    split <;> rfl
  | some found =>
    rw [Run.error_andThen, List.filter_cons_of_neg (by simp [hcall]), List.filter_cons_of_pos hspan, hsteps]

end Run

section Short

/-- The span of a registry without a module. -/
def shortSpan : Text :=
  "var __webpack_require__ = \x7b\x7d;var __webpack_exports__ =".toList

theorem hardened_shortSpan : Registry.hardened shortSpan = ObjectLiteral.guard shortSpan := by
  have hloop : Registry.loopOf shortSpan = none := by decide +kernel
  rw [Registry.hardened_eq, Registry.replacementsFor, hloop]
  rfl

/-- On a chunk that begins with this span, once the module calls are replaced, only the guards work. -/
theorem result_apply_shortSpan {t rest : Text} (ctx : Context)
    (hfirst : (Registry.spans.first? (safeCalls t)).map
      (fun hit => (hit.gap, hit.groups.whole, hit.groups.after)) = some ([], shortSpan, rest))
    (hne : guardSites (ObjectLiteral.guard shortSpan ++ rest) ≠ ObjectLiteral.guard shortSpan ++ rest) :
    (rules.apply t ctx).result = .ok (guardSites (ObjectLiteral.guard shortSpan ++ rest)) := by
  obtain ⟨hit, hfirst, heq⟩ := Option.map_eq_some_iff.mp hfirst
  obtain ⟨hgap, hwhole, hafter⟩ : hit.gap = [] ∧ hit.groups.whole = shortSpan ∧
      hit.groups.after = rest := by
    simpa only [Prod.mk.injEq] using heq
  have hspan := Registry.isSpan_of_read (Form.of_first? hfirst).2
  have hhardened : hardenedAt hit = ObjectLiteral.guard shortSpan ++ rest := by
    rw [hardenedAt, hgap, hwhole, hafter, hardened_shortSpan]
    rfl
  have hresult := result_apply_of_some ctx hfirst
  cases hidle : Step.firstIdle? (Registry.stepsFor hit.groups.whole) hit.groups.whole with
  | some found =>
    have hloop := (hspan.of_firstIdle? hidle).1
    rw [hwhole] at hloop
    exact absurd hloop (by decide +kernel)
  | none =>
    rw [hidle, hhardened] at hresult
    exact hresult.trans (if_neg hne)

/-- A small chunk: a registry without a module, and exports with one entry. -/
def sample : Text :=
  "var __webpack_require__ = \x7b\x7d;var __webpack_exports__ = \x7ba\x7d".toList

/-- The small chunk, hardened. -/
def hardenedSample : Text :=
  ("var __webpack_require__ = \x7b__proto__: null\x7d;" ++
    "var __webpack_exports__ = \x7b__proto__: null,a\x7d").toList

theorem result_apply_sample : (rules.apply sample {}).result = .ok hardenedSample := by
  have hsample : sample = shortSpan ++ " \x7ba\x7d".toList := by decide +kernel
  have hguarded : guardSites (ObjectLiteral.guard shortSpan ++ " \x7ba\x7d".toList) = hardenedSample := by
    decide +kernel
  rw [hsample, ← hguarded]
  exact result_apply_shortSpan {} (by decide +kernel) (by decide +kernel)

end Short

end BundleHardening.MainChunk
