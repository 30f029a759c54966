import BundleHardening.Proofs.Hardening.MainChunk

/-!
# What the rules for the main chunk decide

Whether a main chunk is hardened, what text it becomes, and which rule refuses it at which place: all of
it is decided by the text alone.  The name of the chunk shows in the wording of a refusal and nowhere
else (`MainChunk.result_apply_eq_decision`).
-/

set_option autoImplicit false

namespace BundleHardening.MainChunk

/-- A refusal, before it is said of which chunk: the rule, its position in its rule set, and the text
that the rule set was given. -/
structure Refusal where
  rule : Substitution
  index : Nat
  source : Text

/-- The refusal as an error. -/
def Refusal.error (r : Refusal) (ctx : Context) : RewriteError :=
  r.rule.refusal r.index ctx r.source

/-- What the rules come to on a text. -/
def decision (t : Text) : Except Refusal Text :=
  match Registry.spans.first? (safeCalls t) with
  | none => .error ⟨registrySubstitution, 1, t⟩
  | some hit =>
    match Step.firstIdle? (Registry.stepsFor hit.groups.whole) hit.groups.whole with
    | some (i, s) => .error ⟨s.substitution, i, hit.groups.whole⟩
    | none =>
      if guardSites (hardenedAt hit) = hardenedAt hit then .error ⟨sitesSubstitution, 2, t⟩
      else .ok (guardSites (hardenedAt hit))

/-- The result of a run is what is decided, said of the chunk at hand. -/
theorem result_apply_eq_decision (t : Text) (ctx : Context) :
    (rules.apply t ctx).result = (decision t).mapError (·.error ctx) := by
  rw [decision]
  cases hfirst : Registry.spans.first? (safeCalls t) with
  | none => exact result_apply_of_none ctx hfirst
  | some hit =>
    rw [result_apply_of_some ctx hfirst]
    dsimp only
    cases Step.firstIdle? (Registry.stepsFor hit.groups.whole) hit.groups.whole with
    | some found => rfl
    | none =>
      dsimp only
      split <;> rfl

/-- A refusal comes from one of the rules for the main chunk, or from one for the runtime. -/
theorem mem_rules_of_decision {t : Text} {r : Refusal} (h : decision t = .error r) :
    .substitute r.rule ∈ rules.rules ++ Bootstrap.rules.rules := by
  rw [rules_eq]
  rw [decision] at h
  split at h
  · cases h
    simp
  · next hit hfirst =>
    split at h
    · next i s hidle =>
      cases h
      have hspan := Registry.isSpan_of_read (Form.of_first? hfirst).2
      obtain ⟨-, -, hget⟩ := hspan.of_firstIdle? hidle
      have hrule : Rule.substitute s.substitution ∈ Bootstrap.rules.rules := by
        rw [Bootstrap.rules_eq_steps]
        exact List.mem_map_of_mem (List.mem_of_getElem? hget)
      exact List.mem_append_right _ hrule
    · split at h
      · cases h
        simp
      · cases h

end BundleHardening.MainChunk
