import BundleHardening.Proofs.Hardening.MainChunk

/-!
# Why the main chunk is refused

There are three things to blame for a refusal: the registry that is not there, a runtime rule that
changes nothing in the registry's span, and the literals outside of which none is there to guard.
`outcome_apply` says that every run gives a text or is refused for exactly one of them.
-/

set_option autoImplicit false

namespace BundleHardening.MainChunk

/-- What a refusal can be blamed on. -/
inductive Blame where
  | registry
  | runtime (index : Nat)
  | literals
  deriving DecidableEq, Repr

/-- The error is the refusal of the text for the given reason.  A runtime rule refuses the span of the
registry, behind the rule for module calls, and only where the loop is called for. -/
inductive Refuses (t : Text) (ctx : Context) : Blame → RewriteError → Prop where
  | registry :
    Refuses t ctx .registry
      (.mismatch (some 1) "module-registry" Registry.spanPattern ctx.displayName t)
  | runtime {hit : Hit} {properties : List Text} {index : Nat} {s : Substitution}
      (located : Registry.locate? (safeCalls t) = some hit)
      (modular : Layout.ofHolder (hit.groups.get 1) = .modular)
      (required : (Registry.requireProperties hit.groups.whole).result = .ok properties)
      (called : properties ≠ [])
      (bounds : 1 ≤ index ∧ index ≤ 5)
      (rule : Bootstrap.rules.rules[index]? = some (.substitute s)) :
    Refuses t ctx (.runtime index)
      (.mismatch (some index) s.name s.target.written ctx.displayName hit.groups.whole)
  | literals :
    Refuses t ctx .literals
      (.mismatch (some 2) "exports-literal-guard" literalSitesPattern ctx.displayName t)

/-- The runtime rules behind the guard bear other names than the rules around them. -/
theorem name_runtime {index : Nat} {s : Substitution} (hpos : 1 ≤ index)
    (h : Bootstrap.rules.rules[index]? = some (.substitute s)) :
    s.name ∉ ["module-registry", "exports-literal-guard", "object-literal-guard"] := by
  obtain ⟨index, rfl⟩ := Nat.exists_eq_add_of_le' hpos
  have hmem : Rule.substitute s ∈ Bootstrap.rules.rules.tail := List.mem_of_getElem? h
  have hname : s.name ∈ Bootstrap.rules.rules.tail.map Rule.name := List.mem_map_of_mem hmem
  have hapart : ∀ name ∈ Bootstrap.rules.rules.tail.map Rule.name,
      name ∉ ["module-registry", "exports-literal-guard", "object-literal-guard"] := by
    decide +kernel
  exact hapart _ hname

/-- How an error tells what it is blamed on. -/
def Blame.Shows (e : RewriteError) : Blame → Prop
  | registry => e.rule = "module-registry"
  | runtime index => e.index? = some index ∧
      e.rule ∉ ["module-registry", "exports-literal-guard", "object-literal-guard"]
  | literals => e.rule = "exports-literal-guard"

namespace Refuses

variable {t : Text} {ctx : Context} {blame other : Blame} {e : RewriteError}

theorem shows (h : Refuses t ctx blame e) : blame.Shows e := by
  cases h with
  | registry => rfl
  | runtime located modular required called bounds rule => exact ⟨rfl, name_runtime bounds.1 rule⟩
  | literals => rfl

/-- An error is blamed on one thing. -/
theorem unique (h : Refuses t ctx blame e) (h' : Refuses t ctx other e) : other = blame := by
  have hshows := h.shows
  have hshows' := h'.shows
  cases blame <;> cases other <;> simp_all [Blame.Shows]

theorem rule_ne (h : Refuses t ctx blame e) : e.rule ≠ "object-literal-guard" := by
  have hshows := h.shows
  cases blame with
  | registry => exact hshows ▸ (by decide)
  | runtime index => exact fun hname => hshows.2 (by rw [hname]; decide)
  | literals => exact hshows ▸ (by decide)

/-- The error is a mismatch with its position filled in. -/
theorem placed (h : Refuses t ctx blame e) : e.isMismatch = true ∧ e.index?.isSome = true := by
  cases h <;> exact ⟨rfl, rfl⟩

end Refuses

/-- A step that is to blame for a span in the text with the module calls replaced is a runtime rule. -/
theorem refuses_of_firstIdle? {t : Text} {ctx : Context} {hit : Hit} {i : Nat} {s : Step}
    (h : Registry.spans.first? (safeCalls t) = some hit)
    (hidle : Step.firstIdle? (Registry.stepsFor hit.groups.whole) hit.groups.whole = some (i, s)) :
    Refuses t ctx (.runtime i) (s.substitution.refusal i ctx hit.groups.whole) := by
  have hspan := Registry.isSpan_of_read (Form.of_first? h).2
  obtain ⟨hloop, hpos, hget⟩ := hspan.of_firstIdle? hidle
  obtain ⟨loop, hloop⟩ := Option.isSome_iff_exists.mp hloop
  obtain ⟨hmodular, hcalled, -⟩ := Registry.of_loopOf hloop
  have hlt : i < Bootstrap.steps.length := (List.getElem?_eq_some_iff.mp hget).1
  have hrule : Bootstrap.rules.rules[i]? = some (.substitute s.substitution) := by
    rw [Bootstrap.rules_eq_steps, List.getElem?_map, hget]
    rfl
  exact .runtime ((Registry.locate?_eq _).trans h) (by rw [← hspan.holderOf_eq]; exact hmodular)
    (by rw [Registry.requireProperties_eq]; rfl) hcalled ⟨hpos, Nat.le_of_lt_succ hlt⟩ hrule

/-- The rules for the main chunk give a text, or refuse it for exactly one reason.  They never end in
another kind of error, and an error has its position; the object literal guard is never to blame. -/
theorem outcome_apply (t : Text) (ctx : Context) :
    (∃ out, (rules.apply t ctx).result = .ok out) ∨
      ∃ e, (rules.apply t ctx).result = .error e ∧ (∃! blame, Refuses t ctx blame e) ∧
        e.isMismatch = true ∧ e.index?.isSome = true ∧ e.rule ≠ "object-literal-guard" := by
  have hrefused (blame : Blame) (e : RewriteError) (h : Refuses t ctx blame e) :
      (∃! blame, Refuses t ctx blame e) ∧ e.isMismatch = true ∧ e.index?.isSome = true ∧
        e.rule ≠ "object-literal-guard" := by
    obtain ⟨hmismatch, hindex⟩ := h.placed
    exact ⟨⟨blame, h, fun other h' => h.unique h'⟩, hmismatch, hindex, h.rule_ne⟩
  cases hfirst : Registry.spans.first? (safeCalls t) with
  | none => exact Or.inr ⟨_, result_apply_of_none ctx hfirst, hrefused .registry _ .registry⟩
  | some hit =>
    have hresult := result_apply_of_some ctx hfirst
    cases hidle : Step.firstIdle? (Registry.stepsFor hit.groups.whole) hit.groups.whole with
    | some found =>
      rw [hidle] at hresult
      exact Or.inr ⟨_, hresult, hrefused _ _ (refuses_of_firstIdle? hfirst hidle)⟩
    | none =>
      rw [hidle] at hresult
      by_cases hsites : guardSites (hardenedAt hit) = hardenedAt hit
      · rw [if_pos hsites] at hresult
        exact Or.inr ⟨_, hresult, hrefused .literals _ .literals⟩
      · rw [if_neg hsites] at hresult
        exact Or.inl ⟨_, hresult⟩

end BundleHardening.MainChunk
