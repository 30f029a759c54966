import BundleHardening.Proofs.Hardening.Bootstrap
import BundleHardening.Proofs.Hardening.Properties
import BundleHardening.Proofs.Hardening.Registry

/-!
# Hardening the span of a registry

A span is hardened by steps: all runtime rules where a loop is called for, and the object literal guard
alone where none is.  The guard always finds the empty literal in the declaration, so a step that
changes nothing is a runtime rule behind the guard (`IsSpan.of_firstIdle?`).

What comes of a span depends on nothing else, is never the span itself, and keeps its two ends
(`IsSpan.exists_hardened_eq`).
-/

set_option autoImplicit false

namespace BundleHardening.Registry

variable {holder span : Text}

/-- The identifier that a span declares. -/
def holderOf (span : Text) : Text :=
  ((declaration? span).map Prod.fst).getD []

/-- The layout that a span tells. -/
def layoutOf (span : Text) : Layout :=
  .ofHolder (holderOf span)

/-- The loop that goes in front of a span, if one is called for. -/
def loopOf (span : Text) : Option Text :=
  loopFor (layoutOf span) span

/-- The steps for a span: all runtime rules behind a loop, the guard alone without one. -/
def stepsFor (span : Text) : List Step :=
  if (loopOf span).isSome then Bootstrap.steps else [ObjectLiteral.guardStep]

/-- What a span becomes when no step fails. -/
def hardened (span : Text) : Text :=
  (loopOf span).getD [] ++ Step.all (stepsFor span) span

/-- The run of the steps on a span. -/
def runSteps (span : Text) (ctx : Context) : Run Text :=
  RuleSet.runFrom ctx span 0 ((stepsFor span).map Step.rule) span

/-- The event that a span of a registry leaves. -/
def located (span : Text) : Event :=
  .registryLocated (layoutOf span) (loopOf span).isSome

/-- The rules for a span, by the loop in front of it. -/
def rulesFor (loop : Option Text) : RuleSet :=
  if loop.isSome then Bootstrap.rules else ObjectLiteral.rules

theorem apply_rulesFor (span : Text) (ctx : Context) :
    (rulesFor (loopOf span)).apply span ctx = runSteps span ctx := by
  by_cases hloop : (loopOf span).isSome = true
  · simp only [rulesFor, runSteps, stepsFor, hloop, if_true]
    rfl
  · simp only [rulesFor, runSteps, stepsFor, hloop]
    rfl

/-- Hardening a span notes the layout and runs the steps. -/
theorem harden_eq {g : Groups} (h : g.get 1 = holderOf g.whole) (ctx : Context) :
    harden g ctx = ⟨located g.whole :: (runSteps g.whole ctx).events,
      (runSteps g.whole ctx).result.map ((loopOf g.whole).getD [] ++ ·)⟩ := by
  have hrules : (if (loopOf g.whole).isSome then Bootstrap.rules else ObjectLiteral.rules).apply
      g.whole ctx = runSteps g.whole ctx := apply_rulesFor g.whole ctx
  have hlayout : Layout.ofHolder (g.get 1) = layoutOf g.whole := by rw [h, layoutOf]
  simp only [harden, Run.bind_eq, Run.pure_eq, hlayout]
  rw [guardFor_eq, ← loopOf, Run.done_andThen, Run.note_andThen, hrules]
  cases hresult : (runSteps g.whole ctx).result with
  | error e =>
    rw [Run.andThen_of_error hresult]
    rfl
  | ok out =>
    rw [Run.andThen_of_ok hresult]
    simp only [Run.done, List.append_nil]
    rfl

/-- The steps run to the end, or up to the first one that changes nothing. -/
theorem result_runSteps (span : Text) (ctx : Context) :
    (runSteps span ctx).result =
      match Step.firstIdle? (stepsFor span) span with
      | none => .ok (Step.all (stepsFor span) span)
      | some (i, s) => .error (s.substitution.refusal i ctx span) := by
  rw [runSteps, RuleSet.runFrom_steps]
  cases Step.firstIdle? (stepsFor span) span with
  | none => rfl
  | some found => simp only [Nat.zero_add]

theorem located_runSteps (span : Text) (ctx : Context) :
    (runSteps span ctx).events.filter Event.isLocated = [] :=
  RuleSet.located_steps ctx span (stepsFor span) 0 span

/-- The text is the span of a registry that is declared under the identifier. -/
structure IsSpan (holder span : Text) : Prop where
  mem : holder ∈ holders
  eq : ∃ inner, span = declaration holder ++ (inner ++ trailer)

theorem isSpan_of_read {t : Text} {g : Groups} (h : spans.read t = some g) :
    IsSpan (g.get 1) g.whole := by
  obtain ⟨holder, inner, rest, hmem, rfl⟩ := of_read h
  exact ⟨hmem, inner, whole_spanGroups holder inner rest⟩

theorem IsSpan.holderOf_eq (h : IsSpan holder span) : holderOf span = holder := by
  obtain ⟨hmem, inner, rfl⟩ := h
  rw [holderOf, declaration?_eq_some_iff.mpr ⟨hmem, rfl⟩]
  rfl

/-- The guard reaches the declaration of the registry, and leaves that of the exports. -/
theorem IsSpan.exists_guard_eq (h : IsSpan holder span) :
    ∃ body, ObjectLiteral.guard span = safeDeclaration holder ++ (body ++ trailer) := by
  obtain ⟨hmem, inner, rfl⟩ := h
  obtain ⟨body, hbody⟩ : ∃ body, ObjectLiteral.guard (inner ++ trailer) = body ++ trailer :=
    ObjectLiteral.exists_guard_append (by decide) (fun c hc => by cases hc; rfl) inner
  have hfront : ("var ".toList ++ holder ++ [' ']).any ObjectLiteral.openers.contains = false := by
    rcases List.mem_pair.mp hmem with rfl | rfl <;> decide
  have hguard := ObjectLiteral.guard_append_emptyLiteral (ObjectLiteral.not_opener_of_any hfront)
    (inner ++ trailer)
  rw [hbody] at hguard
  refine ⟨body, ?_⟩
  simp only [declaration, safeDeclaration, List.append_assoc] at hguard ⊢
  exact hguard

/-- The guard comes first; what follows it are steps for exact texts. -/
theorem exists_stepsFor_eq (span : Text) : ∃ later, stepsFor span = ObjectLiteral.guardStep :: later ∧
    (later = [] ∧ loopOf span = none ∨ later = Bootstrap.literalSteps ∧ (loopOf span).isSome = true) := by
  cases h : loopOf span with
  | none => exact ⟨[], by rw [stepsFor, h]; rfl, Or.inl ⟨rfl, rfl⟩⟩
  | some loop => exact ⟨Bootstrap.literalSteps, by rw [stepsFor, h]; rfl, Or.inr ⟨rfl, rfl⟩⟩

/-- The exact texts that are replaced in a span: all behind a loop, none without one. -/
def replacementsFor (span : Text) : List (Text × Text) :=
  if (loopOf span).isSome then Bootstrap.replacements else []

theorem mem_of_mem_replacementsFor {pair : Text × Text} (h : pair ∈ replacementsFor span) :
    pair ∈ Bootstrap.replacements := by
  rw [replacementsFor] at h
  split at h
  · exact h
  · cases h

theorem hardened_eq (span : Text) :
    hardened span =
      (loopOf span).getD [] ++ Text.replaceEach (replacementsFor span) (ObjectLiteral.guard span) := by
  rw [hardened, stepsFor, replacementsFor]
  split
  · rw [Bootstrap.all_steps]
  · rfl

/-- No replacement reaches into the declaration of the exports. -/
theorem apart_trailer : ∀ pair ∈ Bootstrap.replacements, pair.1 ≠ [] ∧ Text.Apart pair.1 trailer := by
  decide +kernel

/-- What becomes of a span itself begins with the declaration that inherits nothing, and ends with that of
the exports. -/
theorem IsSpan.exists_replaceEach_guard_eq (h : IsSpan holder span) :
    ∃ body, Text.replaceEach (replacementsFor span) (ObjectLiteral.guard span) =
      safeDeclaration holder ++ (body ++ trailer) := by
  obtain ⟨body, hbody⟩ := h.exists_guard_eq
  have hhead : ∀ holder ∈ holders, ∀ pair ∈ Bootstrap.replacements,
      Text.overlaps pair.1 (safeDeclaration holder) = [] := by
    decide +kernel
  rw [hbody]
  refine Text.replaceEach_between (fun pair hpair => ?_) body
  have hmem := mem_of_mem_replacementsFor hpair
  obtain ⟨hne, htail⟩ := apart_trailer pair hmem
  exact ⟨hne, hhead holder h.mem pair hmem, htail⟩

theorem IsSpan.exists_hardened_eq (h : IsSpan holder span) :
    ∃ body, hardened span = (loopOf span).getD [] ++ (safeDeclaration holder ++ (body ++ trailer)) := by
  obtain ⟨body, hbody⟩ := h.exists_replaceEach_guard_eq
  exact ⟨body, by rw [hardened_eq, hbody]⟩

/-- The two declarations differ behind the brace. -/
theorem IsSpan.ne_safeDeclaration_append (h : IsSpan holder span) (t : Text) :
    safeDeclaration holder ++ t ≠ span := by
  obtain ⟨hmem, inner, rfl⟩ := h
  intro heq
  have hsame := congrArg (List.drop ("var ".toList ++ (holder ++ " = \x7b".toList)).length) heq
  rcases List.mem_pair.mp hmem with rfl | rfl <;>
    exact absurd (List.cons_eq_cons.mp hsame).1 (by decide)

/-- A loop is called for by a property of the require function, in the modular layout alone. -/
theorem of_loopOf {span loop : Text} (h : loopOf span = some loop) :
    layoutOf span = .modular ∧ properties span ≠ [] ∧ loop = guardLoop (properties span) := by
  rw [loopOf] at h
  cases hlayout : layoutOf span with
  | concatenated => rw [hlayout] at h; cases h
  | modular =>
    rw [hlayout, loopFor] at h
    split at h
    · cases h
    · next hne => exact ⟨rfl, fun hnil => hne (by rw [hnil]; rfl), (Option.some.inj h).symm⟩

theorem getD_loopOf (span : Text) :
    (loopOf span).getD [] ∈ [[], guardLoop (properties span)] := by
  cases h : loopOf span with
  | none => exact List.mem_cons_self
  | some loop =>
    rw [(of_loopOf h).2.2]
    exact List.mem_cons_of_mem _ List.mem_cons_self

/-- Hardening changes every span. -/
theorem IsSpan.hardened_ne (h : IsSpan holder span) : hardened span ≠ span := by
  obtain ⟨body, hbody⟩ := h.exists_hardened_eq
  rw [hbody]
  cases hloop : loopOf span with
  | none => exact h.ne_safeDeclaration_append _
  | some loop =>
    obtain ⟨-, -, rfl⟩ := of_loopOf hloop
    obtain ⟨-, inner, rfl⟩ := h
    intro heq
    have hhead : 'f' = 'v' := (List.cons_eq_cons.mp heq).1
    exact absurd hhead (by decide)

/-- The guard never is the step that changes nothing: a step to blame is one for an exact text, and there
is a loop. -/
theorem IsSpan.of_firstIdle? (h : IsSpan holder span) {i : Nat} {s : Step}
    (hidle : Step.firstIdle? (stepsFor span) span = some (i, s)) :
    (loopOf span).isSome = true ∧ 1 ≤ i ∧ Bootstrap.steps[i]? = some s := by
  obtain ⟨later, hsteps, hlater⟩ := exists_stepsFor_eq span
  obtain ⟨body, hguard⟩ := h.exists_guard_eq
  have hne : ObjectLiteral.guardStep.act span ≠ span := fun heq =>
    h.ne_safeDeclaration_append _ (hguard.symm.trans heq)
  rw [hsteps, Step.firstIdle?, if_neg hne] at hidle
  obtain ⟨⟨i', _⟩, hin, heq⟩ := Option.map_eq_some_iff.mp hidle
  cases heq
  have hget := (Step.of_firstIdle? hin).1
  rcases hlater with ⟨rfl, -⟩ | ⟨rfl, hloop⟩
  · cases hget
  · exact ⟨hloop, Nat.succ_pos i', hget⟩

end BundleHardening.Registry
