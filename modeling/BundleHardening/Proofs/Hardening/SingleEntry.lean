import BundleHardening.Proofs.Hardening.Acceptance
import BundleHardening.Proofs.Hardening.GuardLoop
import BundleHardening.Proofs.Hardening.MainChunk

/-!
# One entry to a literal

The rules for the main chunk put in `__proto__` entries at three places: the guard loop brings one of its
own, the guard puts them into the literals of the registry's span, and the last rule into the literals
outside.  None of them meets another: what the rules give is one text without a `__proto__`, with entries
put in (`sealed_apply`).
-/

set_option autoImplicit false

namespace BundleHardening

namespace Registry

variable {holder span gap after : Text}

/-- What entries are put into where a span is hardened. -/
def bareSpan (span : Text) : Text :=
  ((loopOf span).map fun _ => bareLoop (properties span)).getD [] ++
    Text.replaceEach (replacementsFor span) span

theorem entered_hardened (span : Text) : Entered (bareSpan span) (hardened span) := by
  have hforeign : ∀ pair ∈ replacementsFor span, Foreign pair.1 := fun pair hpair =>
    (Bootstrap.foreign_and_longer pair (mem_of_mem_replacementsFor hpair)).1
  have hreplaced := (entered_guard span).replaceEach hforeign
  rw [hardened_eq, bareSpan]
  cases hloop : loopOf span with
  | none => exact hreplaced.append_left []
  | some loop =>
    obtain ⟨-, -, rfl⟩ := of_loopOf hloop
    exact (entered_guardLoop (properties span)).append hreplaced

/-- The loop has no `__proto__` but that of its entry, unless a name has one. -/
theorem not_protoKey_infix_bareLoop {names : List Text} (h : ∀ name ∈ names, ∀ c ∈ name, isWord c = true)
    (hfree : ∀ name ∈ names, ¬ protoKey <:+: name) : ¬ protoKey <:+: bareLoop names := by
  have hsplit : bareLoop names = loopFront ++ '[' :: (Json.joined [','] (names.map Json.quote) ++
      ']' :: (loopHead ++ ('\x7b' :: loopTail))) := by
    simp [bareLoop, Json.quoteAll]
  have hnames : Json.joined [','] (names.map Json.quote) <:+: Json.quoteAll names :=
    List.infix_append ['['] _ [']']
  rw [hsplit, Text.infix_append_cons_iff (by decide), Text.infix_append_cons_iff (by decide)]
  rintro (hin | hin | hin)
  · exact absurd hin (by decide +kernel)
  · have hplain : ∀ c ∈ ['[', ']', ',', '"'], c ∉ protoKey := by
      intro c hc
      fin_cases hc <;> decide
    obtain ⟨name, hname, hin⟩ := Json.infix_quoteAll h hplain (by decide) (hin.trans hnames)
    exact hfree name hname hin
  · exact absurd hin (by decide +kernel)

/-- The two ends of the loop are not in the key. -/
theorem exists_bareLoop_eq (names : List Text) :
    ∃ middle, bareLoop names = 'f' :: (middle ++ ['\n']) := by
  have hfront : loopFront = 'f' :: loopFront.tail := by decide +kernel
  have htail : loopTail = loopTail.dropLast ++ ['\n'] := by decide +kernel
  refine ⟨loopFront.tail ++ (Json.quoteAll names ++ (loopHead ++ ('\x7b' :: loopTail.dropLast))), ?_⟩
  rw [bareLoop, hfront, htail]
  simp

/-- Replacing in the span makes no `__proto__`, neither inside nor with what stands behind. -/
theorem not_protoKey_infix_replaceEach (h : IsSpan holder span) (hfree : ¬ protoKey <:+: span ++ after) :
    ¬ protoKey <:+: Text.replaceEach (replacementsFor span) span ++ after := by
  have hlast : trailer = "var __webpack_exports__ ".toList ++ ['='] := by decide +kernel
  have hapart : ∀ pair ∈ Bootstrap.replacements, pair.1 ≠ [] ∧ Text.Apart pair.2 protoKey := by
    decide +kernel
  have hspan : ¬ protoKey <:+: Text.replaceEach (replacementsFor span) span := fun hin =>
    hfree ((Text.infix_of_infix_replaceEach (fun pair hpair =>
      hapart pair (mem_of_mem_replacementsFor hpair)) hin).trans (List.prefix_append span after).isInfix)
  obtain ⟨-, inner, hinner⟩ := h
  have hends : ∀ pair ∈ replacementsFor span,
      pair.1 ≠ [] ∧ Text.overlaps pair.1 [] = [] ∧ Text.Apart pair.1 trailer := fun pair hpair =>
    have hmem := apart_trailer pair (mem_of_mem_replacementsFor hpair)
    ⟨hmem.1, rfl, hmem.2⟩
  obtain ⟨body, hbody⟩ := Text.replaceEach_between hends (declaration holder ++ inner)
  rw [List.nil_append, List.append_assoc, ← hinner, List.nil_append] at hbody
  -- The span ends in a character that is not in the key.
  rw [hbody, hlast, ← List.append_assoc, List.append_assoc, List.singleton_append,
    Text.infix_append_cons_iff (by decide)]
  rintro (hin | hin)
  · refine hspan (hin.trans ?_)
    rw [hbody, hlast, ← List.append_assoc]
    exact (List.prefix_append _ ['=']).isInfix
  · exact hfree (hin.trans (List.suffix_append span after).isInfix)

/-- Where a text has no `__proto__`, no entry is put into one that has. -/
theorem not_protoKey_infix_bareSpan (h : IsSpan holder span)
    (hfree : ¬ protoKey <:+: gap ++ (span ++ after)) :
    ¬ protoKey <:+: gap ++ (bareSpan span ++ after) := by
  have hbehind : ¬ protoKey <:+: span ++ after := fun hin =>
    hfree (hin.trans (List.suffix_append gap _).isInfix)
  rw [bareSpan]
  cases hloop : loopOf span with
  | none =>
    rw [replacementsFor, hloop]
    exact hfree
  | some loop =>
    have hnames : ∀ name ∈ properties span, ¬ protoKey <:+: name := fun name hname hin =>
      hbehind ((hin.trans (of_mem_properties hname).1).trans (List.prefix_append span after).isInfix)
    have hlooped := not_protoKey_infix_bareLoop (isWord_of_mem_properties span) hnames
    have hreplaced := not_protoKey_infix_replaceEach h hbehind
    obtain ⟨middle, hmiddle⟩ := exists_bareLoop_eq (properties span)
    have hsplit (replaced : Text) : gap ++ (bareLoop (properties span) ++ replaced ++ after) =
        gap ++ 'f' :: (middle ++ '\n' :: (replaced ++ after)) := by
      rw [hmiddle]
      simp
    rw [Option.map_some, Option.getD_some, hsplit, Text.infix_append_cons_iff (by decide),
      Text.infix_append_cons_iff (by decide)]
    rintro (hin | hin | hin)
    · exact hfree (hin.trans (List.prefix_append gap _).isInfix)
    · exact hlooped (hin.trans (hmiddle ▸ List.infix_append ['f'] middle ['\n']))
    · exact hreplaced hin

end Registry

namespace MainChunk

variable {t out : Text} {ctx : Context}

/-- Replacing module calls makes no `__proto__`. -/
theorem not_protoKey_infix_safeCalls (h : ¬ protoKey <:+: t) : ¬ protoKey <:+: safeCalls t :=
  mt (Text.infix_of_infix_replaceAll (by decide) (by decide +kernel)) h

/-- A literal site ends in its brace. -/
theorem exists_site_eq : ∀ site ∈ literalSites, ['\x7b'] <:+ site := by
  decide +kernel

theorem furthers_guardSites (t : Text) : Furthers t (guardSites t) := by
  refine furthers_rewrite takes_literalSites (fun {t taken rest} hstart => ?_) t
  obtain ⟨front, hfront⟩ := exists_site_eq taken (Text.firstOf?_eq_some hstart).1
  exact ⟨front, hfront.symm⟩

/-- What the rules give for a text without a `__proto__` has it only in entries, each behind a brace. -/
theorem sealed_apply (hfree : ¬ protoKey <:+: t) (h : (rules.apply t ctx).result = .ok out) :
    Sealed out := by
  obtain ⟨hit, hfirst, rfl⟩ := exists_hit_of_apply h
  obtain ⟨hsplit, hread⟩ := Form.of_first? hfirst
  have hcalls := not_protoKey_infix_safeCalls hfree
  rw [hsplit] at hcalls
  have hbare := Registry.not_protoKey_infix_bareSpan (Registry.isSpan_of_read hread) hcalls
  have hentered : Entered (hit.gap ++ (Registry.bareSpan hit.groups.whole ++ hit.groups.after))
      (hardenedAt hit) :=
    ((Registry.entered_hardened hit.groups.whole).append (.refl hit.groups.after)).append_left hit.gap
  exact (furthers_guardSites (hardenedAt hit) _ hentered).sealed hbare

theorem sealed_apply_sample :
    ¬ protoKey <:+: sample ∧ (rules.apply sample {}).result = .ok hardenedSample ∧
      Sealed hardenedSample := by
  have hfree : ¬ protoKey <:+: sample := by decide +kernel
  exact ⟨hfree, result_apply_sample, sealed_apply hfree result_apply_sample⟩

end MainChunk

end BundleHardening
