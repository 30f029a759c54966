import BundleHardening.Proofs.Hardening.DetectedLayout
import BundleHardening.Proofs.Hardening.Frame
import BundleHardening.Proofs.Hardening.SingleEntry

/-!
# The registry that remains

A rewrite hardens the first registry of a chunk and leaves those behind it.  Nothing that is put in, and
nothing that the literals outside are given, declares a registry; so the registry that is found in what
the rules give is the first one behind the span that was hardened (`detectLayout_apply`).
-/

set_option autoImplicit false

namespace BundleHardening

open ObjectLiteral Registry Regular

variable {c : Char} {t out rest : Text} {holder : Text}

namespace Entered

/-- An empty literal got no entry. -/
theorem of_emptyLiteral (h : Entered t ('\x7b' :: '\x7d' :: out)) :
    ∃ t', t = '\x7b' :: '\x7d' :: t' ∧ Entered t' out := by
  generalize hout : '\x7b' :: '\x7d' :: out = u at h
  cases h with
  | nil => cases hout
  | keep c h =>
    obtain ⟨rfl, rfl⟩ := List.cons_eq_cons.mp hout
    obtain ⟨t', rfl, h'⟩ := h.of_cons_right (by decide)
    exact ⟨t', rfl, h'⟩
  | entry =>
    have hnext : '\x7d' = '_' := (List.cons_eq_cons.mp (List.cons_eq_cons.mp hout).2).1
    exact absurd hnext (by decide)

/-- A declaration of a registry was there before. -/
theorem of_declaration (hmem : holder ∈ holders) (h : Entered t (declaration holder ++ out)) :
    ∃ t', t = declaration holder ++ t' ∧ Entered t' out := by
  have hfront : '\x7b' ∉ "var ".toList ++ (holder ++ " = ".toList) := by
    rcases List.mem_pair.mp hmem with rfl | rfl <;> decide
  have hsplit (u : Text) : declaration holder ++ u =
      ("var ".toList ++ (holder ++ " = ".toList)) ++ ('\x7b' :: '\x7d' :: ([';'] ++ u)) := by
    simp [declaration]
  rw [hsplit] at h
  obtain ⟨behind, rfl, hbehind⟩ := h.of_append_right hfront
  obtain ⟨inner, rfl, hinner⟩ := hbehind.of_emptyLiteral
  obtain ⟨t', rfl, ht'⟩ := hinner.of_append_right (s := [';']) (by decide)
  exact ⟨t', (hsplit t').symm, ht'⟩

end Entered

namespace ObjectLiteral

/-- Whatever stands in front of a guarded text, it does not complete the declaration of a registry. -/
theorem not_declaration_prefix_cons_guard (hmem : holder ∈ holders) (c : Char) (t : Text) :
    ¬ declaration holder <+: c :: guard t := by
  rintro ⟨rest, hrest⟩
  have hentered := (entered_guard t).keep c
  rw [← hrest] at hentered
  obtain ⟨t', ht', -⟩ := hentered.of_declaration hmem
  have hname : ("ar ".toList ++ holder ++ [' ']).any openers.contains = false := by
    rcases List.mem_pair.mp hmem with rfl | rfl <;> decide
  have hsplit (u : Text) : declaration holder ++ u =
      'v' :: (("ar ".toList ++ holder ++ [' ']) ++ ("= \x7b\x7d;".toList ++ u)) := by
    simp [declaration]
  rw [hsplit] at ht' hrest
  obtain ⟨-, rfl⟩ := List.cons_eq_cons.mp ht'
  obtain ⟨-, hguard⟩ := List.cons_eq_cons.mp hrest
  rw [guard_append_emptyLiteral (not_opener_of_any hname), List.append_cancel_left_eq] at hguard
  exact absurd (congrArg (List.take 4) hguard) (by simp)

/-- No match of the guard has the first character of a declaration in front of the brace. -/
theorem not_mem_of_opening? {taken middle : Text} (h : opening? t = some (taken, middle)) :
    'v' ∉ taken := by
  obtain ⟨d, u, more, rfl, rfl, hopener, hmore⟩ := of_opening? h
  obtain ⟨front, last, rfl, -, hfront, hlast⟩ := of_runThen hmore
  have hv (c : Class) (hv : c.contains 'v' = false) {x : Char} (hx : c.contains x = true) :
      'v' ≠ x := by
    rintro rfl
    rw [hv] at hx
    cases hx
  rw [List.mem_cons, List.mem_append, List.mem_singleton]
  rintro (hin | hin | hin)
  · exact hv openers (by decide) hopener hin
  · exact hv .blank (by decide) (hfront _ hin) rfl
  · exact hv (.single '\x7b') (by decide) hlast hin

/-- The guarded form of a match is text that begins no declaration, and the character taken along. -/
theorem exists_guarded_eq_of_read {g : Groups} (h : openings.read t = some g) :
    ∃ front next, guarded g = front ++ [next] ∧ 'v' ∉ front := by
  obtain ⟨taken, middle, blanks, next, rest, hopen, hin, rfl⟩ := of_read h
  have htaken := not_mem_of_opening? hopen
  have hblanks : 'v' ∉ blanks := fun hv => by
    have hblank := (of_firstInside? hin).2 'v' hv
    cases hblank
  by_cases hkey : IsProtoKey next rest
  · exact ⟨taken ++ blanks, next, guarded_of_protoKey hkey, by simp [htaken, hblanks]⟩
  · refine ⟨_, next, guarded_of_not_protoKey hkey, ?_⟩
    have hentry : 'v' ∉ nullProto ++ separator next := by
      rw [separator]
      split <;> decide
    rw [List.append_assoc, List.mem_append]
    exact not_or.mpr ⟨htaken, hentry⟩

/-- A guarded text declares no registry. -/
theorem not_declaration_infix_guard (hmem : holder ∈ holders) (t : Text) :
    ¬ declaration holder <:+: guard t := by
  induction t using openings.induction with
  | nil =>
    rw [guard_nil, List.infix_nil]
    exact List.append_ne_nil_of_left_ne_nil (by decide) _
  | keep c t h ih =>
    have hguard : guard (c :: t) = c :: guard t := openings.rewrite_cons guarded h
    rw [hguard, List.infix_cons_iff]
    exact not_or.mpr ⟨not_declaration_prefix_cons_guard hmem c t, ih⟩
  | hit t g h ih =>
    obtain ⟨front, next, hnew, hfront⟩ := exists_guarded_eq_of_read h
    have hguard : guard t = front ++ next :: guard g.after := by
      rw [guard, openings.rewrite_of_read guarded h, hnew, List.append_assoc]
      rfl
    have hover : Text.overlaps (declaration holder) front = [] :=
      overlaps_declaration_of_not_mem hfront holder
    rw [hguard, Text.infix_append_iff_of_overlaps hover, List.infix_cons_iff]
    exact not_or.mpr ⟨not_declaration_prefix_cons_guard hmem next g.after, ih⟩

example : guard "var __webpack_require__ = \x7b\x7d;".toList =
    "var __webpack_require__ = \x7b__proto__: null\x7d;".toList := by
  decide +kernel

end ObjectLiteral

namespace Registry

variable {span : Text} {u : Text} {hit : Hit}

/-- No declaration begins in what becomes of a span itself. -/
theorem IsSpan.overlaps_declaration (h : IsSpan holder span) {other : Text} (hmem : other ∈ holders) :
    Text.overlaps (declaration other)
      (Text.replaceEach (replacementsFor span) (guard span)) = [] := by
  have hapart : ∀ other ∈ holders, ∀ pair ∈ Bootstrap.replacements,
      pair.1 ≠ [] ∧ Text.Apart pair.2 (declaration other) := by
    decide +kernel
  have htrailer : ∀ other ∈ holders,
      Text.overlaps (declaration other) trailer = [] ∧ ¬ trailer <:+: declaration other := by
    decide +kernel
  have hnot : ¬ declaration other <:+: Text.replaceEach (replacementsFor span) (guard span) := fun hin =>
    not_declaration_infix_guard hmem span (Text.infix_of_infix_replaceEach (fun pair hpair =>
      hapart other hmem pair (mem_of_mem_replacementsFor hpair)) hin)
  obtain ⟨body, hbody⟩ := h.exists_replaceEach_guard_eq
  rw [hbody, ← List.append_assoc] at hnot ⊢
  exact Text.overlaps_eq_nil_of_not_infix hnot (htrailer other hmem).1 (htrailer other hmem).2

/-- What a hardened span begins with. -/
def starts : List Text :=
  ["for ".toList, "var ".toList]

/-- A declaration meets none of these but at its own beginning. -/
theorem eq_nil_of_overlaps_start : ∀ holder ∈ holders, ∀ start ∈ starts,
    ∀ cut ∈ Text.overlaps start (declaration holder), cut.1 = [] := by
  decide +kernel

/-- In the text before the first span none begins when the span is replaced. -/
theorem read_gap_append (h : spans.first? t = some hit) {start : Text} (hmem : start ∈ starts)
    (hu : start <+: u) {s : Text} (hs : s <:+ hit.gap) (hne : s ≠ []) : spans.read (s ++ u) = none := by
  refine read_eq_none fun holder hholder hle => ?_
  rcases List.prefix_or_prefix_of_prefix hle (List.prefix_append s u) with ⟨more, rfl⟩ | ⟨more, hsplit⟩
  · -- The declaration stands before the span: then the first span begins there.
    have hread := Form.read_of_gap h hs hne
    obtain ⟨_, inner, hinner⟩ := isSpan_of_read (Form.of_first? h).2
    rw [List.append_assoc] at hread
    refine read_declaration_append_ne_none hholder ?_ hread
    rw [hinner]
    exact ⟨more ++ declaration (hit.groups.get 1) ++ inner, hit.groups.after, by simp⟩
  · -- It begins there and reaches into what replaces the span.
    cases more with
    | nil =>
      rw [List.append_nil] at hsplit
      have hread := Form.read_of_gap h hs hne
      obtain ⟨_, inner, hinner⟩ := isSpan_of_read (Form.of_first? h).2
      rw [hsplit] at hread
      refine read_declaration_append_ne_none hholder ?_ hread
      rw [hinner]
      exact ⟨declaration (hit.groups.get 1) ++ inner, hit.groups.after, by simp⟩
    | cons c more =>
      rw [← hsplit, List.prefix_append_right_inj] at hle
      have hcut : (s, c :: more) ∈ Text.overlaps start (declaration holder) :=
        Text.mem_overlaps_iff.mpr
          ⟨hsplit.symm, List.cons_ne_nil c more, List.prefix_or_prefix_of_prefix hle hu⟩
      exact hne (eq_nil_of_overlaps_start holder hholder start hmem _ hcut)

/-- Hardening the first span leaves the first registry behind it to be found. -/
theorem behind?_hardened (h : spans.first? t = some hit) :
    behind? (hit.gap ++ (hardened hit.groups.whole ++ hit.groups.after)) = behind? hit.groups.after := by
  have hspan := isSpan_of_read (Form.of_first? h).2
  obtain ⟨body, hbody⟩ := hspan.exists_replaceEach_guard_eq
  have hbehind := behind?_append_of_overlaps (fun other => hspan.overlaps_declaration) hit.groups.after
  rw [hardened_eq]
  cases hloop : loopOf hit.groups.whole with
  | none =>
    have hstart : "var ".toList <+:
        Text.replaceEach (replacementsFor hit.groups.whole) (guard hit.groups.whole) ++
          hit.groups.after := by
      rw [hbody, safeDeclaration, List.append_assoc, List.append_assoc]
      exact List.prefix_append _ _
    have hgap := behind?_append_of_misses fun s hs hne => read_gap_append h (by decide) hstart hs hne
    exact hgap.trans hbehind
  | some loop =>
    obtain ⟨-, hne, rfl⟩ := of_loopOf hloop
    have hvar : Unlisted "var ".toList := by decide +kernel
    have hover (other : Text) (_ : other ∈ holders) :
        Text.overlaps (declaration other) (guardLoop (properties hit.groups.whole)) = [] :=
      Text.overlaps_eq_nil_of_prefix (List.prefix_append _ _)
        (hvar.overlaps_guardLoop (by decide +kernel) hne (isWord_of_mem_properties _))
    have hstart (v : Text) : "for ".toList <+: guardLoop (properties hit.groups.whole) ++ v :=
      (for_prefix_guardLoop _).trans (List.prefix_append _ v)
    have hgap (v : Text) := behind?_append_of_misses fun s hs hne =>
      read_gap_append h (by decide) (hstart v) hs hne
    rw [Option.getD_some, List.append_assoc, hgap, behind?_append_of_overlaps hover, hbehind]

end Registry

namespace Guards

variable {sites : List Text}

/-- An entry behind a site that ends in its brace. -/
theorem entered_behind {site blanks sep : Text} (hsite : ['\x7b'] <:+ site)
    (blank : ∀ c ∈ blanks, isBlank c = true) (closes : Closes sep out) (h : Entered t out) :
    Entered (site ++ (blanks ++ t)) (site ++ (nullProto ++ (sep ++ out))) := by
  obtain ⟨front, rfl⟩ := hsite
  simpa using (Entered.entry blank closes h).append_left front

/-- Entries behind sites that end in their brace. -/
theorem entered (hsites : ∀ site ∈ sites, ['\x7b'] <:+ site) (h : Guards sites t out) :
    Entered t out := by
  induction h with
  | nil => exact .nil
  | keep c _ ih => exact ih.keep c
  | @entry site blanks t out next mem blank _ ih =>
    exact entered_behind (hsites site mem) blank (closes_separator next out) (ih.keep next)

/-- A beginning in which no site begins is kept. -/
theorem of_append {front : Text} (hover : ∀ site ∈ sites, Text.overlaps site front = [])
    (h : Guards sites (front ++ t) out) : ∃ out', out = front ++ out' ∧ Guards sites t out' := by
  induction front generalizing out with
  | nil => exact ⟨out, rfl, h⟩
  | cons c front ih =>
    have hlater : ∀ site ∈ sites, Text.overlaps site front = [] := fun site hsite =>
      (Text.overlaps_cons_eq_nil_iff.mp (hover site hsite)).2
    generalize hu : c :: front ++ t = u at h
    cases h with
    | nil => cases hu
    | keep d h =>
      obtain ⟨rfl, rfl⟩ := List.cons_eq_cons.mp hu
      obtain ⟨out', rfl, h'⟩ := ih hlater h
      exact ⟨out', rfl, h'⟩
    | @entry site blanks t' out' next mem blank h =>
      refine absurd ?_ (Text.not_prefix_append (hover site mem) (List.cons_ne_nil c front) t)
      rw [hu]
      exact List.prefix_append site _

end Guards

namespace MainChunk

/-- No site begins in a declaration of a registry, and no declaration in a site. -/
theorem overlaps_sites : ∀ holder ∈ holders, ∀ site ∈ literalSites,
    Text.overlaps site (declaration holder) = [] ∧ Text.overlaps (declaration holder) site = [] := by
  decide +kernel

/-- A span begins in the same places, and is declared under the same identifier. -/
theorem read_guards (h : Guards literalSites t out) :
    (spans.read out).map (·.get 1) = (spans.read t).map (·.get 1) := by
  have hentered := h.entered exists_site_eq
  cases hdecl : declaration? t with
  | none =>
    have hnone : spans.read out = none := read_eq_none fun holder hmem hle => by
      obtain ⟨out', rfl⟩ := hle
      obtain ⟨t', rfl, -⟩ := hentered.of_declaration hmem
      rw [declaration?_eq_some_iff.mpr ⟨hmem, rfl⟩] at hdecl
      cases hdecl
    have hread : spans.read t = none := by simp [spans, hdecl]
    rw [hnone, hread]
  | some split =>
    obtain ⟨holder, rest⟩ := split
    obtain ⟨hmem, rfl⟩ := declaration?_eq_some_iff.mp hdecl
    obtain ⟨out', rfl, h'⟩ := h.of_append fun site hsite => (overlaps_sites holder hmem site hsite).1
    have hread (u : Text) : (spans.read (declaration holder ++ u)).map (·.get 1) =
        (Escape.cut? trailer u).map fun _ => holder := by
      simp only [spans, declaration?_eq_some_iff.mpr ⟨hmem, rfl⟩, Option.bind_some, Option.map_map]
      rfl
    have htrailer : Escape.cut? trailer out' = none ↔ Escape.cut? trailer rest = none := by
      rw [Text.cut?_eq_none_iff (by decide), Text.cut?_eq_none_iff (by decide),
        (h'.entered exists_site_eq).infix_iff (by decide +kernel)]
    rw [hread, hread]
    cases hout : Escape.cut? trailer out' <;> cases hrest : Escape.cut? trailer rest <;>
      simp_all

/-- Guarding the literals outside leaves the first registry under its identifier. -/
theorem identifier?_guards (h : Guards literalSites t out) : identifier? out = identifier? t := by
  have hcons {t out : Text} (c : Char) (h : Guards literalSites t out)
      (ih : identifier? out = identifier? t) : identifier? (c :: out) = identifier? (c :: t) := by
    have hread := read_guards (h.keep c)
    cases ht : spans.read (c :: t) with
    | none =>
      rw [ht, Option.map_none, Option.map_eq_none_iff] at hread
      rw [identifier?_eq, identifier?_eq, behind?_cons hread, behind?_cons ht, ← identifier?_eq, ih,
        identifier?_eq]
    | some g =>
      rw [ht] at hread
      obtain ⟨g', hg', heq⟩ := Option.map_eq_some_iff.mp hread
      rw [identifier?_eq, identifier?_eq, behind?_of_read hg', behind?_of_read ht]
      exact congrArg some heq
  induction h with
  | nil => rfl
  | keep c h ih => exact hcons c h ih
  | @entry site blanks t out next mem blank h ih =>
    have hsite (u : Text) : behind? (site ++ u) = behind? u :=
      behind?_append_of_overlaps (fun holder hmem => (overlaps_sites holder hmem site mem).2) u
    have hblanks : 'v' ∉ blanks := fun hv => by
      have hblank := blank 'v' hv
      cases hblank
    have hentry : 'v' ∉ nullProto ++ separator next := by
      rw [separator]
      split <;> decide
    rw [identifier?_eq, identifier?_eq, hsite, hsite, behind?_append hblanks, ← List.append_assoc,
      behind?_append hentry, ← identifier?_eq, ← identifier?_eq]
    exact hcons next h ih

/-- What stands behind the first span is that of the text as it is, with the module calls replaced. -/
theorem exists_after_eq {hit : Hit} (h : spans.first? (safeCalls t) = some hit) :
    ∃ hit', spans.first? t = some hit' ∧ hit.groups.after = safeCalls hit'.groups.after := by
  have hbehind : behind? (safeCalls t) = some (hit.groups.get 1, hit.groups.after) := by
    rw [behind?, h]
    rfl
  rw [safeCalls, behind?_replaceAll unmarked_calls.1 unmarked_calls.2, behind?, Option.map_map] at hbehind
  obtain ⟨hit', hfirst, heq⟩ := Option.map_eq_some_iff.mp hbehind
  exact ⟨hit', hfirst, (Prod.mk.inj heq).2.symm⟩

/-- The registry that is found in the hardened text is the first one behind the hardened span. -/
theorem identifier?_guardSites_hardenedAt {hit : Hit} (h : spans.first? t = some hit) :
    identifier? (guardSites (hardenedAt hit)) = identifier? hit.groups.after := by
  have hguards : Guards literalSites (hardenedAt hit) (guardSites (hardenedAt hit)) :=
    Guards.rewrite takes_literalSites (hardenedAt hit)
  rw [identifier?_guards hguards, identifier?_eq, hardenedAt, behind?_hardened h, ← identifier?_eq]

/-- A text is refused for want of a registry exactly where none is detected. -/
theorem refused_iff_detectLayout (t : Text) (ctx : Context) :
    (rules.apply t ctx).result =
        .error (.mismatch (some 1) "module-registry" spanPattern ctx.displayName t) ↔
      detectLayout t = none := by
  rw [detectLayout_eq_map]
  cases h : spans.first? (safeCalls t) with
  | none => exact ⟨fun _ => rfl, fun _ => result_apply_of_none ctx h⟩
  | some hit =>
    refine ⟨fun herror => absurd rfl (rule_ne_of_some h herror), fun hnone => ?_⟩
    cases hnone

/-- The registry that is found in what the rules give is the first one behind the span that was hardened.
So the rules refuse what they gave for want of a registry exactly where there is none behind that span. -/
theorem detectLayout_apply {ctx : Context} (h : (rules.apply t ctx).result = .ok out) :
    ∃ hit, locate? t = some hit ∧ detectLayout out = detectLayout hit.groups.after ∧
      ∀ again : Context, (rules.apply out again).result =
          .error (.mismatch (some 1) "module-registry" spanPattern again.displayName out) ↔
        detectLayout hit.groups.after = none := by
  obtain ⟨hit, hfirst, rfl⟩ := exists_hit_of_apply h
  obtain ⟨hit', hfirst', hafter⟩ := exists_after_eq hfirst
  have hidentifier := identifier?_guardSites_hardenedAt hfirst
  rw [hafter] at hidentifier
  have hlayout : detectLayout (guardSites (hardenedAt hit)) = detectLayout hit'.groups.after := by
    rw [← detectLayout_safeCalls hit'.groups.after, detectLayout_eq, hidentifier, ← detectLayout_eq]
  refine ⟨hit', (locate?_eq t).trans hfirst', hlayout, fun again => ?_⟩
  rw [refused_iff_detectLayout, hlayout]

theorem detectLayout_apply_sample :
    (rules.apply sample {}).result = .ok hardenedSample ∧ ∃ hit, locate? sample = some hit ∧
      detectLayout hardenedSample = detectLayout hit.groups.after := by
  obtain ⟨hit, hlocated, hlayout, -⟩ := detectLayout_apply result_apply_sample
  exact ⟨result_apply_sample, hit, hlocated, hlayout⟩

section Double

/-- What stands behind the first span of the sample. -/
def doubleRest : Text :=
  " \x7ba\x7d;".toList ++ (shortSpan ++ " \x7bb\x7d".toList)

/-- A chunk with two registries. -/
def doubleSample : Text :=
  shortSpan ++ doubleRest

theorem result_apply_doubleSample :
    (rules.apply doubleSample {}).result = .ok (guardSites (guard shortSpan ++ doubleRest)) :=
  result_apply_shortSpan {} (by decide +kernel) (by decide +kernel)

/-- A registry is left to be detected when the rules have given a text. -/
theorem detectLayout_left_doubleSample :
    ∃ out, (rules.apply doubleSample {}).result = .ok out ∧
      detectLayout out = some .concatenated := by
  have hidentifier : identifier? (guardSites (guard shortSpan ++ doubleRest)) = some Names.require := by
    decide +kernel
  refine ⟨_, result_apply_doubleSample, ?_⟩
  rw [detectLayout_eq, hidentifier]
  rfl

end Double

end MainChunk

end BundleHardening
