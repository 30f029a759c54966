import BundleHardening.Proofs.Hardening.Refusals

/-!
# The layout that is detected

The layout that is reported for a chunk is read off the chunk as it stands, and the one that the rules
act on is read behind the rule for module calls.  `layout_apply` says that they agree: the rules note
the detected layout once, and are refused for want of a registry exactly where none is detected.
-/

set_option autoImplicit false

namespace BundleHardening.MainChunk

/-- The detected layout is told by the span that the rules harden. -/
theorem detectLayout_eq_map (t : Text) :
    Registry.detectLayout t =
      (Registry.spans.first? (safeCalls t)).map fun hit => Registry.layoutOf hit.groups.whole := by
  rw [← detectLayout_safeCalls, Registry.detectLayout_eq, Registry.identifier?, Option.map_map]
  cases h : Registry.spans.first? (safeCalls t) with
  | none => rfl
  | some hit =>
    rw [Option.map_some, Option.map_some, Function.comp_apply, Registry.layoutOf,
      (Registry.isSpan_of_read (Form.of_first? h).2).holderOf_eq]

/-- A rewrite of a text with a registry is never refused for want of one. -/
theorem rule_ne_of_some {t : Text} {ctx : Context} {hit : Hit} {e : RewriteError}
    (h : Registry.spans.first? (safeCalls t) = some hit)
    (herror : (rules.apply t ctx).result = .error e) : e.rule ≠ "module-registry" := by
  rw [result_apply_of_some ctx h] at herror
  split at herror
  · next i s hidle =>
    cases herror
    exact fun hname => (refuses_of_firstIdle? h hidle).shows.2 (by rw [hname]; decide)
  · split at herror
    · cases herror
      exact (by decide : sitesSubstitution.name ≠ "module-registry")
    · cases herror

/-- The rules act on the layout that is detected, and replacing module calls makes no difference to
it. -/
theorem layout_apply (t : Text) (ctx : Context) :
    (match Registry.detectLayout t with
      | some layout =>
        (∀ e, (rules.apply t ctx).result = .error e → e.rule ≠ "module-registry") ∧
          ∃ guarded, (rules.apply t ctx).events.filter Event.isLocated =
            [.registryLocated layout guarded]
      | none =>
        (rules.apply t ctx).result =
          .error (.mismatch (some 1) "module-registry" Registry.spanPattern ctx.displayName t)) ∧
      Registry.detectLayout (safeCalls t) = Registry.detectLayout t := by
  refine ⟨?_, detectLayout_safeCalls t⟩
  rw [detectLayout_eq_map]
  cases h : Registry.spans.first? (safeCalls t) with
  | none => exact result_apply_of_none ctx h
  | some hit =>
    exact ⟨fun e herror => rule_ne_of_some h herror, _, located_apply_of_some ctx h⟩

end BundleHardening.MainChunk
