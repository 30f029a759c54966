import BundleHardening.Proofs.Hardening.MainChunk

/-!
# What a rewrite leaves alone

Outside the registry's span a rewrite of the main chunk changes nothing but the literals behind three
texts, and in these it only puts an entry behind the brace and drops blank space.  The span is replaced
by its hardened form, whatever stands around it.  `frame_apply` says both.
-/

set_option autoImplicit false

namespace BundleHardening

open ObjectLiteral

/-- The second text is the first one with the null prototype put behind some occurrences of the sites,
each of which ends in a brace.  Blank space behind the brace is dropped, and a comma comes behind the
entry where another one follows. -/
inductive Guards (sites : List Text) : Text → Text → Prop where
  | nil : Guards sites [] []
  | keep {t out : Text} (c : Char) : Guards sites t out → Guards sites (c :: t) (c :: out)
  | entry {site blanks t out : Text} (next : Char) (mem : site ∈ sites)
      (blank : ∀ c ∈ blanks, isBlank c = true) : Guards sites t out →
    Guards sites (site ++ (blanks ++ next :: t))
      (site ++ (nullProto ++ (separator next ++ next :: out)))

namespace Guards

variable {sites : List Text} {t out : Text}

theorem append (front : Text) (h : Guards sites t out) : Guards sites (front ++ t) (front ++ out) := by
  induction front with
  | nil => exact h
  | cons c front ih => exact ih.keep c

/-- Rewriting the literals behind a choice of sites. -/
theorem rewrite (h : (Regular.choice sites).Takes (Text.firstOf? sites)) (t : Text) :
    Guards sites t ((Form.entry h).rewrite guarded t) := by
  induction t using (Form.entry h).induction with
  | nil =>
    rw [Form.rewrite_nil]
    exact .nil
  | keep c t hread ih =>
    rw [Form.rewrite_cons _ _ hread]
    exact ih.keep c
  | hit t g hread ih =>
    rw [Form.rewrite_of_read _ _ hread]
    obtain ⟨⟨site, middle⟩, hsite, hmiddle⟩ := Option.bind_eq_some_iff.mp hread
    obtain ⟨⟨blanks, next, rest⟩, hin, rfl⟩ := Option.map_eq_some_iff.mp hmiddle
    obtain ⟨hmem, rfl⟩ := Text.firstOf?_eq_some hsite
    obtain ⟨rfl, hblanks⟩ := of_firstInside? hin
    by_cases hkey : IsProtoKey next rest
    · rw [guarded_of_protoKey hkey]
      have hkept := ih.append (site ++ (blanks ++ [next]))
      simpa [entryGroups] using hkept
    · rw [guarded_of_not_protoKey hkey]
      have hentry := Guards.entry next hmem hblanks ih
      simpa [entryGroups] using hentry

end Guards

namespace MainChunk

/-- What a rewrite gives is the text with the module calls replaced and the span of the first registry
hardened, up to entries in literals outside.  The hardened span depends on nothing but the span; it
begins, behind a loop that may be there, with the declaration of the registry, which inherits nothing,
and ends with the declaration of the exports. -/
theorem frame_apply {t out : Text} {ctx : Context} (h : (rules.apply t ctx).result = .ok out) :
    ∃ hit, Registry.locate? (safeCalls t) = some hit ∧
      safeCalls t = hit.gap ++ (hit.groups.whole ++ hit.groups.after) ∧
      Registry.declaration (hit.groups.get 1) <+: hit.groups.whole ∧
      Guards literalSites
        (hit.gap ++ (Registry.hardened hit.groups.whole ++ hit.groups.after)) out ∧
      ∃ loop body, loop ∈ [[], Registry.guardLoop (Registry.properties hit.groups.whole)] ∧
        Registry.hardened hit.groups.whole =
          loop ++ (Registry.safeDeclaration (hit.groups.get 1) ++ (body ++ Registry.trailer)) := by
  cases hfirst : Registry.spans.first? (safeCalls t) with
  | none =>
    rw [result_apply_of_none ctx hfirst] at h
    cases h
  | some hit =>
    rw [result_apply_of_some ctx hfirst] at h
    split at h
    · cases h
    · split at h
      · cases h
      · cases h
        obtain ⟨htext, hread⟩ := Form.of_first? hfirst
        have hspan := Registry.isSpan_of_read hread
        obtain ⟨body, hbody⟩ := hspan.exists_hardened_eq
        obtain ⟨inner, hinner⟩ := hspan.eq
        exact ⟨hit, (Registry.locate?_eq _).trans hfirst, htext, ⟨_, hinner.symm⟩, Guards.rewrite _ _,
          _, body, Registry.getD_loopOf _, hbody⟩

theorem frame_apply_sample :
    (rules.apply sample {}).result = .ok hardenedSample ∧
      ∃ hit, Registry.locate? (safeCalls sample) = some hit ∧
        Guards literalSites
          (hit.gap ++ (Registry.hardened hit.groups.whole ++ hit.groups.after)) hardenedSample := by
  obtain ⟨hit, hlocated, -, -, hguards, -⟩ := frame_apply result_apply_sample
  exact ⟨result_apply_sample, hit, hlocated, hguards⟩

end MainChunk

end BundleHardening
