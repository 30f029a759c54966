import BundleHardening.Proofs.Hardening.RemainingRegistry
import BundleHardening.Proofs.Text.Occurrences

/-!
# Marks that a rewrite leaves alone

A mark is *unaffected* by hardening if it overlaps nothing that is entered or put in, and meets the text
around a span at no seam.  Such a mark occurs in what the rules give as often as in the text with the module
calls replaced, and in the loop (`occurrences_apply`).

The direct call of a module factory is one.  Replacing it leaves none behind, and the loop has none, so none
survives a rewrite, wherever it stood (`not_moduleCall_infix_apply`).
-/

set_option autoImplicit false

namespace BundleHardening

open ObjectLiteral

variable {k mark t out : Text}

/-- Foreign text stands as often as it stood before. -/
theorem Entered.occurrences_eq (hk : Foreign k) (h : Entered t out) :
    Text.occurrences k out = Text.occurrences k t := by
  induction h with
  | nil => rfl
  | keep c h ih => exact Text.occurrences_cons_congr ((h.keep c).prefix_iff hk.brace) ih
  | @entry blanks sep t out blank closes _ ih =>
    have hout := Text.occurrences_append_of_overlaps (hk.entry sep closes.mem) out
    have ht := Text.occurrences_append_of_overlaps (hk.overlaps_blanks blank) t
    rw [List.cons_append, List.append_assoc] at hout
    rw [List.cons_append] at ht
    rw [hout, ih, ht]

namespace Registry

variable {holder span start : Text} {hit : Hit}

/-- A text that begins with a declaration, and ends with that of the exports. -/
structure Framed (t : Text) : Prop where
  begins : "var ".toList <+: t
  ends : trailer <:+ t

theorem IsSpan.framed (h : IsSpan holder span) : Framed span := by
  obtain ⟨-, inner, rfl⟩ := h
  exact ⟨⟨_, rfl⟩, ⟨declaration holder ++ inner, List.append_assoc _ _ _⟩⟩

/-- What becomes of a span itself is framed as the span is. -/
theorem IsSpan.framed_replaceEach_guard (h : IsSpan holder span) :
    Framed (Text.replaceEach (replacementsFor span) (guard span)) := by
  obtain ⟨body, hbody⟩ := h.exists_replaceEach_guard_eq
  rw [hbody]
  exact ⟨⟨_, rfl⟩, ⟨safeDeclaration holder ++ body, List.append_assoc _ _ _⟩⟩

/-- A mark that hardening a span neither makes nor breaks, whatever stands around the span. -/
structure Unaffected (mark : Text) : Prop where
  foreign : Foreign mark
  spared : ∀ pair ∈ Bootstrap.replacements, Text.Spares pair mark
  starts : ∀ start ∈ starts, ∀ cut ∈ Text.overlaps start mark, cut.1 = []
  trailer : Text.Apart trailer mark

instance (mark : Text) : Decidable (Unaffected mark) :=
  decidable_of_iff (Foreign mark ∧ (∀ pair ∈ Bootstrap.replacements, Text.Spares pair mark) ∧
    (∀ start ∈ starts, ∀ cut ∈ Text.overlaps start mark, cut.1 = []) ∧ Text.Apart Registry.trailer mark)
    ⟨fun ⟨hforeign, hspared, hstarts, htrailer⟩ => ⟨hforeign, hspared, hstarts, htrailer⟩,
      fun h => ⟨h.foreign, h.spared, h.starts, h.trailer⟩⟩

namespace Unaffected

/-- It does not reach into what begins like a span or a loop. -/
theorem occurrences_append (h : Unaffected mark) (hmem : start ∈ Registry.starts) {u : Text}
    (hu : start <+: u) (t : Text) :
    Text.occurrences mark (t ++ u) = Text.occurrences mark t + Text.occurrences mark u :=
  Text.occurrences_append hu (h.starts start hmem) t

/-- It reaches neither into what is framed like a span nor beyond it. -/
theorem occurrences_framed (h : Unaffected mark) (ht : Framed t) (front rest : Text) :
    Text.occurrences mark (front ++ (t ++ rest)) =
      Text.occurrences mark front + (Text.occurrences mark t + Text.occurrences mark rest) := by
  rw [h.occurrences_append (by decide) (ht.begins.trans (List.prefix_append t rest))]
  obtain ⟨inner, rfl⟩ := ht.ends
  have hend := Text.occurrences_append_part h.trailer inner []
  rw [List.append_nil, Text.occurrences, Nat.add_zero] at hend
  rw [List.append_assoc, Text.occurrences_append_part h.trailer, hend]

/-- It occurs in what becomes of a span itself as often as in the span. -/
theorem occurrences_replaceEach_guard (h : Unaffected mark) (span : Text) :
    Text.occurrences mark (Text.replaceEach (replacementsFor span) (guard span)) =
      Text.occurrences mark span := by
  rw [Text.occurrences_replaceEach fun pair hpair => h.spared pair (mem_of_mem_replacementsFor hpair),
    (entered_guard span).occurrences_eq h.foreign]

end Unaffected

/-- A mark that begins neither in the list of names nor in the fixed text begins nowhere in the loop. -/
theorem overlaps_loopOf (h : Unlisted mark) (hfront : Text.overlaps mark loopFront = []) (span : Text) :
    Text.overlaps mark ((loopOf span).getD []) = [] := by
  cases hloop : loopOf span with
  | none => rfl
  | some loop =>
    obtain ⟨-, hne, rfl⟩ := of_loopOf hloop
    exact h.overlaps_guardLoop hfront hne (isWord_of_mem_properties span)

/-- Hardening the span adds the occurrences in the loop, and no other. -/
theorem Unaffected.occurrences_hardened (h : Unaffected mark) (hfirst : spans.first? t = some hit) :
    Text.occurrences mark (hit.gap ++ (hardened hit.groups.whole ++ hit.groups.after)) =
      Text.occurrences mark t + Text.occurrences mark ((loopOf hit.groups.whole).getD []) := by
  obtain ⟨hsplit, hread⟩ := Form.of_first? hfirst
  have hspan := isSpan_of_read hread
  have hbefore := h.occurrences_framed hspan.framed hit.gap hit.groups.after
  have hbehind (front : Text) := h.occurrences_framed hspan.framed_replaceEach_guard front hit.groups.after
  rw [← hsplit] at hbefore
  simp only [h.occurrences_replaceEach_guard] at hbehind
  rw [hbefore, hardened_eq]
  cases hloop : loopOf hit.groups.whole with
  | none => exact hbehind hit.gap
  | some loop =>
    obtain ⟨-, -, rfl⟩ := of_loopOf hloop
    have hfor (u : Text) : "for ".toList <+: guardLoop (properties hit.groups.whole) ++ u :=
      (for_prefix_guardLoop _).trans (List.prefix_append _ u)
    rw [Option.getD_some, List.append_assoc, h.occurrences_append (by decide) (hfor _), hbehind]
    omega

end Registry

namespace MainChunk

open Registry

variable {ctx : Context}

/-- An unaffected mark occurs in what the rules give as often as in the text with the module calls replaced,
and in the loop, if there is one. -/
theorem occurrences_apply (h : Unaffected mark) {hit : Hit} (hfirst : spans.first? (safeCalls t) = some hit) :
    Text.occurrences mark (guardSites (hardenedAt hit)) =
      Text.occurrences mark (safeCalls t) +
        Text.occurrences mark ((loopOf hit.groups.whole).getD []) := by
  rw [(furthers_guardSites (hardenedAt hit)).entered.occurrences_eq h.foreign, hardenedAt,
    h.occurrences_hardened hfirst]

section ModuleCalls

/-- The direct call of a module factory. -/
def moduleCall : Text :=
  "__webpack_modules__[moduleId].call(".toList

theorem unaffected_moduleCall : Unaffected moduleCall := by
  decide +kernel

/-- The safe call makes no direct one, neither by itself nor with what stands around it. -/
theorem not_moduleCall_infix_safeCalls (t : Text) : ¬ moduleCall <:+: safeCalls t := by
  have hreturning : Text.returning moduleCall "safeCall(__webpack_modules__[moduleId], ".toList = [] := by
    decide +kernel
  intro hin
  obtain ⟨source, hsource, -⟩ := Text.exists_returning_of_infix_replaceAll (by decide) hin
  rw [hreturning] at hsource
  cases hsource

theorem unlisted_moduleCall : Unlisted moduleCall ∧ Text.overlaps moduleCall loopFront = [] := by
  decide +kernel

theorem occurrences_moduleCall_loopOf (span : Text) :
    Text.occurrences moduleCall ((loopOf span).getD []) = 0 := by
  have hover := overlaps_loopOf unlisted_moduleCall.1 unlisted_moduleCall.2 span
  exact (Text.occurrences_eq_zero_iff (by decide)).mpr (Text.not_infix_of_overlaps (by decide) hover)

/-- What the rules give holds no direct call of a module factory, neither in the span of the registry nor
before or behind it. -/
theorem not_moduleCall_infix_apply (h : (rules.apply t ctx).result = .ok out) :
    ¬ moduleCall <:+: out := by
  obtain ⟨hit, hfirst, rfl⟩ := exists_hit_of_apply h
  have hcalls := (Text.occurrences_eq_zero_iff (by decide)).mpr (not_moduleCall_infix_safeCalls t)
  rw [← Text.occurrences_eq_zero_iff (by decide), occurrences_apply unaffected_moduleCall hfirst, hcalls,
    occurrences_moduleCall_loopOf]

/-- A small chunk with a module call behind its exports. -/
def callSample : Text :=
  shortSpan ++ " \x7ba\x7d;__webpack_modules__[moduleId].call(b)".toList

/-- What is left of the call is a safe one. -/
theorem not_moduleCall_infix_callSample :
    moduleCall <:+: callSample ∧ ∃ out, (rules.apply callSample {}).result = .ok out ∧
      "safeCall(__webpack_modules__[moduleId], b)".toList <:+ out ∧ ¬ moduleCall <:+: out := by
  have hresult : (rules.apply callSample {}).result = .ok (guardSites (guard shortSpan ++
      " \x7ba\x7d;safeCall(__webpack_modules__[moduleId], b)".toList)) :=
    result_apply_shortSpan {} (by decide +kernel) (by decide +kernel)
  exact ⟨by decide +kernel, _, hresult, by decide +kernel, not_moduleCall_infix_apply hresult⟩

end ModuleCalls

end MainChunk

end BundleHardening
