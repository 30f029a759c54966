import BundleHardening.Proofs.Hardening.AccessScan
import BundleHardening.Proofs.Hardening.Marks
import BundleHardening.Proofs.Json.Lists

/-!
# The properties that are pinned

A loop is called for by a property of the require function in the modular layout.  It lists the names of the
properties, each once and in the order of first appearance, and comes in once, in front of the declaration of
the registry.  Where it does, the span is rewritten by all runtime rules, and elsewhere by the object literal
guard alone (`pins_apply`).
-/

set_option autoImplicit false

namespace BundleHardening

open ObjectLiteral

namespace Registry

section Names

variable {found names seen : List Text}

/-- The names are those that were found, each once, and in the order of first appearance. -/
structure FirstAppearances (found names : List Text) : Prop where
  nodup : names.Nodup
  mem_iff : ∀ name, name ∈ names ↔ name ∈ found
  ordered : names.Pairwise fun first later => found.idxOf first < found.idxOf later

/-- The names that are left, in the order of first appearance. -/
theorem pairwise_distinct (seen found : List Text) :
    (distinct seen found).Pairwise fun first later => found.idxOf first < found.idxOf later := by
  induction found generalizing seen with
  | nil => exact .nil
  | cons name found ih =>
    -- a name that is seen already is not among those that are left
    have hlater (seen : List Text) (hseen : name ∈ seen) : (distinct seen found).Pairwise fun first later =>
        (name :: found).idxOf first < (name :: found).idxOf later := by
      refine (ih seen).imp_of_mem fun {first later} hfirst hlater hlt => ?_
      have hne {other : Text} (h : other ∈ distinct seen found) : name ≠ other := fun heq =>
        (mem_distinct_iff.mp h).2 (heq ▸ hseen)
      rw [List.idxOf_cons_ne _ (hne hfirst), List.idxOf_cons_ne _ (hne hlater)]
      exact Nat.succ_lt_succ hlt
    rw [distinct]
    split
    · next hcontains => exact hlater seen (List.contains_iff_mem.mp hcontains)
    · refine List.pairwise_cons.mpr ⟨fun later hmem => ?_, hlater _ List.mem_cons_self⟩
      have hne : name ≠ later := fun heq => (mem_distinct_iff.mp hmem).2 (heq ▸ List.mem_cons_self)
      rw [List.idxOf_cons_self, List.idxOf_cons_ne _ hne]
      exact Nat.succ_pos _

theorem firstAppearances_distinct (found : List Text) : FirstAppearances found (distinct [] found) where
  nodup := by
    refine List.nodup_iff_pairwise_ne.mpr ((pairwise_distinct [] found).imp fun hlt heq => ?_)
    subst heq
    exact Nat.lt_irrefl _ hlt
  mem_iff name := by rw [mem_distinct_iff, and_iff_left List.not_mem_nil]
  ordered := pairwise_distinct [] found

end Names

section Loop

variable {span : Text}

/-- There are properties where there are accesses. -/
theorem properties_ne_nil_iff : properties span ≠ [] ↔ ∃ a : Access, a.Stands isWord none span := by
  rw [← not_iff_not, not_not, not_exists, ← scan_eq_nil_iff, List.eq_nil_iff_forall_not_mem]
  simp only [mem_properties_iff]
  constructor
  · exact fun h => List.eq_nil_iff_forall_not_mem.mpr fun a hmem => h a.name ⟨a, hmem, rfl⟩
  · rintro hnil name ⟨a, hmem, -⟩
    rw [hnil] at hmem
    cases hmem

theorem isSome_loopOf_iff :
    (loopOf span).isSome = true ↔
      layoutOf span = .modular ∧ ∃ a : Access, a.Stands isWord none span := by
  rw [← properties_ne_nil_iff, loopOf]
  cases layoutOf span with
  | concatenated => simp [loopFor]
  | modular => by_cases h : properties span = [] <;> simp [loopFor, h]

/-- The beginning of a loop stands nowhere else in it. -/
theorem occurrences_loopFront_guardLoop {names : List Text} (hne : names ≠ [])
    (h : ∀ name ∈ names, ∀ c ∈ name, isWord c = true) :
    Text.occurrences loopFront (guardLoop names) = 1 := by
  have hunlisted : Unlisted loopFront := by decide +kernel
  have hover : Text.overlaps loopFront (loopFront.tail ++ (Json.quoteAll names ++ loopRear)) = [] :=
    Text.overlaps_append_eq_nil (by decide +kernel) (hunlisted.overlaps_listing hne h)
  have hrest := (Text.occurrences_eq_zero_iff (by decide)).mpr (Text.not_infix_of_overlaps (by decide) hover)
  have hpre : loopFront <+: guardLoop names := by
    rw [guardLoop_eq]
    exact List.prefix_append _ _
  have hcons : guardLoop names = 'f' :: (loopFront.tail ++ (Json.quoteAll names ++ loopRear)) := by
    rw [guardLoop_eq]
    rfl
  rw [hcons] at hpre ⊢
  rw [Text.occurrences_cons_of_begins hpre, hrest]

end Loop

end Registry

namespace Guards

variable {sites : List Text} {start front rest t out : Text}

/-- Where no site reaches from a text into the one behind it, and the latter begins with no blank, the site
and the blanks of an entry lie in the first text. -/
theorem exists_inner_eq {site blanks : Text} {next : Char} (hstart : start <+: rest)
    (hcuts : ∀ cut ∈ Text.overlaps start site, cut.1 = []) (hhead : ∀ c, rest.head? = some c → isBlank c = false)
    (blank : ∀ c ∈ blanks, isBlank c = true) (hne : front ≠ [])
    (hsplit : front ++ rest = site ++ (blanks ++ next :: t)) :
    ∃ inner, front = site ++ (blanks ++ inner) ∧ next :: t = inner ++ rest := by
  obtain ⟨more, rfl, hmore⟩ : ∃ more, front = site ++ more ∧ blanks ++ next :: t = more ++ rest := by
    rcases List.append_eq_append_iff.mp hsplit with ⟨more, hsite, hrest⟩ | ⟨more, hfront, hmore⟩
    · cases more with
      | nil => exact ⟨[], by simpa using hsite.symm, by simpa using hrest.symm⟩
      | cons c more =>
        have hmeet := List.prefix_or_prefix_of_prefix ⟨_, hrest.symm⟩ hstart
        have hcut : (front, c :: more) ∈ Text.overlaps start site :=
          Text.mem_overlaps_iff.mpr ⟨hsite, List.cons_ne_nil c more, hmeet⟩
        exact absurd (hcuts _ hcut) hne
    · exact ⟨more, hfront, hmore⟩
  rcases List.append_eq_append_iff.mp hmore with ⟨inner, rfl, hrest⟩ | ⟨left, hblanks, hrest⟩
  · exact ⟨inner, rfl, hrest⟩
  · cases left with
    | nil => exact ⟨[], by simp [hblanks], by simpa using hrest.symm⟩
    | cons c left =>
      have hblank := blank c (hblanks ▸ List.mem_append_right more List.mem_cons_self)
      rw [hhead c (by rw [hrest]; rfl)] at hblank
      cases hblank

/-- Where no site reaches from a text into the one behind it, the two are guarded one by one.  An entry may
come at the seam: it is one that the first text ends in. -/
theorem exists_append_eq (hsites : ∀ site ∈ sites, ['\x7b'] <:+ site) (hstart : start <+: rest)
    (hcuts : ∀ site ∈ sites, ∀ cut ∈ Text.overlaps start site, cut.1 = [])
    (hhead : ∀ c, rest.head? = some c → isBlank c = false ∧ c ≠ '\x7d')
    (h : Guards sites (front ++ rest) out) :
    ∃ front' rest', out = front' ++ rest' ∧ Entered front front' ∧ Guards sites rest rest' := by
  generalize hsplit : front ++ rest = t at h
  induction h generalizing front with
  | nil =>
    obtain ⟨rfl, rfl⟩ := List.append_eq_nil_iff.mp hsplit
    exact ⟨[], [], rfl, .nil, .nil⟩
  | @keep t out c h ih =>
    cases front with
    | nil =>
      rw [List.nil_append] at hsplit
      exact ⟨[], c :: out, rfl, .nil, hsplit ▸ h.keep c⟩
    | cons d front =>
      obtain ⟨rfl, hlater⟩ := List.cons_eq_cons.mp hsplit
      obtain ⟨front', rest', rfl, hentered, hguards⟩ := ih hlater
      exact ⟨d :: front', rest', rfl, hentered.keep d, hguards⟩
  | @entry site blanks t out next mem blank h ih =>
    by_cases hne : front = []
    · subst hne
      rw [List.nil_append] at hsplit
      exact ⟨[], _, rfl, .nil, hsplit ▸ .entry next mem blank h⟩
    obtain ⟨inner, rfl, hinner⟩ := exists_inner_eq hstart (hcuts site mem)
      (fun c hc => (hhead c hc).1) blank hne hsplit
    cases inner with
    | nil =>
      -- the entry comes at the seam
      obtain rfl : rest = next :: t := hinner.symm
      have hcloses : Closes (separator next) [] := Or.inl (if_neg (hhead next rfl).2)
      refine ⟨site ++ (nullProto ++ (separator next ++ [])), next :: out, by simp, ?_, h.keep next⟩
      exact entered_behind (hsites site mem) blank hcloses .nil
    | cons c inner =>
      obtain ⟨rfl, rfl⟩ := List.cons_eq_cons.mp hinner
      obtain ⟨front', rest', rfl, hentered, hguards⟩ := ih rfl
      refine ⟨site ++ (nullProto ++ (separator next ++ next :: front')), rest', by simp, ?_, hguards⟩
      exact entered_behind (hsites site mem) blank (closes_separator next front') (hentered.keep next)

end Guards

namespace MainChunk

open Registry

variable {t out : Text} {ctx : Context} {hit : Hit}

section Placed

/-- No site reaches into what begins like a span or a loop. -/
theorem eq_nil_of_overlaps_start_site : ∀ start ∈ starts, ∀ site ∈ literalSites,
    ∀ cut ∈ Text.overlaps start site, cut.1 = [] := by
  decide +kernel

theorem unlisted_site : ∀ site ∈ literalSites, Unlisted site ∧ Text.overlaps site loopFront = [] := by
  decide +kernel

/-- No site begins in the declaration that a hardened span begins with. -/
theorem overlaps_site_safeDeclaration : ∀ holder ∈ holders, ∀ site ∈ literalSites,
    Text.overlaps site (safeDeclaration holder) = [] := by
  decide +kernel

/-- What begins like a span or a loop begins with no blank and no closing brace. -/
theorem head_of_start {start rest : Text} (hmem : start ∈ starts) (h : start <+: rest) {c : Char}
    (hc : rest.head? = some c) : isBlank c = false ∧ c ≠ '\x7d' := by
  obtain ⟨tail, rfl⟩ := h
  rcases List.mem_pair.mp hmem with rfl | rfl
  · obtain rfl : 'f' = c := Option.some.inj hc
    decide
  · obtain rfl : 'v' = c := Option.some.inj hc
    decide

/-- Guarding the literals outside leaves the loop in front of the declaration of the registry. -/
theorem exists_guardSites_eq (hfirst : spans.first? t = some hit) :
    ∃ front rest, guardSites (hardenedAt hit) = front ++ ((loopOf hit.groups.whole).getD [] ++ rest) ∧
      Entered hit.gap front ∧ safeDeclaration (hit.groups.get 1) <+: rest ∧
      Guards literalSites
        (Step.all (stepsFor hit.groups.whole) hit.groups.whole ++ hit.groups.after) rest := by
  have hspan := isSpan_of_read (Form.of_first? hfirst).2
  obtain ⟨body, hbody⟩ := hspan.exists_hardened_eq
  have hrewritten : Step.all (stepsFor hit.groups.whole) hit.groups.whole =
      safeDeclaration (hit.groups.get 1) ++ (body ++ trailer) := List.append_cancel_left hbody
  have hguards : Guards literalSites (hardenedAt hit) (guardSites (hardenedAt hit)) :=
    Guards.rewrite takes_literalSites (hardenedAt hit)
  have hsplit : hardenedAt hit = hit.gap ++ ((loopOf hit.groups.whole).getD [] ++
      (Step.all (stepsFor hit.groups.whole) hit.groups.whole ++ hit.groups.after)) := by
    rw [hardenedAt, hardened, List.append_assoc]
  obtain ⟨start, hmem, hstart⟩ : ∃ start ∈ starts, start <+: (loopOf hit.groups.whole).getD [] ++
      (Step.all (stepsFor hit.groups.whole) hit.groups.whole ++ hit.groups.after) := by
    cases hloop : loopOf hit.groups.whole with
    | none => exact ⟨"var ".toList, by decide, by rw [hrewritten]; exact ⟨_, rfl⟩⟩
    | some loop =>
      obtain ⟨-, -, rfl⟩ := of_loopOf hloop
      exact ⟨"for ".toList, by decide, (for_prefix_guardLoop _).trans (List.prefix_append _ _)⟩
  rw [hsplit] at hguards ⊢
  obtain ⟨front, behind, hout, hentered, hbehind⟩ := hguards.exists_append_eq exists_site_eq hstart
    (eq_nil_of_overlaps_start_site start hmem) fun c hc => head_of_start hmem hstart hc
  obtain ⟨rest, rfl, hrest⟩ := hbehind.of_append fun site hsite =>
    overlaps_loopOf (unlisted_site site hsite).1 (unlisted_site site hsite).2 _
  refine ⟨front, rest, hout, hentered, ?_, hrest⟩
  rw [hrewritten, List.append_assoc] at hrest
  obtain ⟨rest', rfl, -⟩ := hrest.of_append (overlaps_site_safeDeclaration _ hspan.mem)
  exact List.prefix_append _ rest'

end Placed

section Pinned

/-- The beginning of a loop is unaffected, by the replaced calls as well. -/
theorem unaffected_loopFront : Unaffected loopFront ∧
    Text.Spares ("__webpack_modules__[moduleId].call(".toList,
      "safeCall(__webpack_modules__[moduleId], ".toList) loopFront := by
  decide +kernel

theorem occurrences_loopFront_loopOf (span : Text) :
    Text.occurrences loopFront ((loopOf span).getD []) = if (loopOf span).isSome then 1 else 0 := by
  cases hloop : loopOf span with
  | none => rfl
  | some loop =>
    obtain ⟨-, hne, rfl⟩ := of_loopOf hloop
    exact occurrences_loopFront_guardLoop hne (isWord_of_mem_properties span)

/-- The rules rewrote a text with this registry and this loop, if any.

- `called`: a loop comes in for a property of the require function, in the modular layout alone.
- `listed`: it lists the names of the properties, each once and in the order of first appearance.
- `placed`: the registry's span is rewritten by the rules that go with the loop, and the loop comes in front of
  the declaration that the rewritten span begins with.
- `traced`: these rules, and no others, ran on the span.
- `once`: of loops there is one more than before, or as many if none came in. -/
structure Pins (t : Text) (ctx : Context) (hit : Hit) (loop : Option Text) (out : Text) : Prop where
  called : loop.isSome = true ↔ Layout.ofHolder (hit.groups.get 1) = .modular ∧
    ∃ a : Access, a.Stands isWord none hit.groups.whole
  listed : ∀ text, loop = some text → ∃ list names, text = loopFront ++ (list ++ loopRear) ∧
    Json.textList? list = .ok names ∧ FirstAppearances (accessedNames hit.groups.whole) names
  placed : ∃ rewritten front rest,
    ((rulesFor loop).apply hit.groups.whole ctx).result = .ok rewritten ∧
      out = front ++ (loop.getD [] ++ rest) ∧ Entered hit.gap front ∧
      safeDeclaration (hit.groups.get 1) <+: rest ∧
      Guards literalSites (rewritten ++ hit.groups.after) rest
  traced : (rules.apply t ctx).events =
    callEvent t :: .registryLocated (.ofHolder (hit.groups.get 1)) loop.isSome ::
      (((rulesFor loop).apply hit.groups.whole ctx).events ++
        [.mandatoryApplied "module-registry", .mandatoryApplied "exports-literal-guard"])
  once : Text.occurrences loopFront out =
    Text.occurrences loopFront t + if loop.isSome then 1 else 0

/-- Where the rules give a text, a loop pins the properties that are read off the require function in the
registry's span, as it is with the module calls replaced.  There is one such loop if the modules are separate
and there is such a property, and none otherwise. -/
theorem pins_apply (h : (rules.apply t ctx).result = .ok out) :
    ∃ hit loop, locate? (safeCalls t) = some hit ∧
      safeCalls t = hit.gap ++ (hit.groups.whole ++ hit.groups.after) ∧ Pins t ctx hit loop out := by
  obtain ⟨hit, hfirst, rfl, hresult, hevents⟩ := of_apply h
  obtain ⟨hsplit, hread⟩ := Form.of_first? hfirst
  have hlayout : layoutOf hit.groups.whole = .ofHolder (hit.groups.get 1) := by
    rw [layoutOf, (isSpan_of_read hread).holderOf_eq]
  obtain ⟨front, rest, hout, hentered, hdeclaration, hrest⟩ := exists_guardSites_eq hfirst
  refine ⟨hit, loopOf hit.groups.whole, (locate?_eq _).trans hfirst, hsplit, ?_⟩
  exact
    { called := by rw [isSome_loopOf_iff, hlayout]
      listed := fun text hloop => by
        obtain ⟨-, -, rfl⟩ := of_loopOf hloop
        refine ⟨_, _, guardLoop_eq _, Json.textList?_quoteAll _, ?_⟩
        rw [properties_eq_names]
        exact firstAppearances_distinct _
      placed := ⟨_, front, rest, by rw [apply_rulesFor, hresult], hout, hentered, hdeclaration, hrest⟩
      traced := by
        rw [hevents, apply_rulesFor, located, hlayout]
        rfl
      once := by
        obtain ⟨hunaffected, hspares⟩ := unaffected_loopFront
        have hcalls : Text.occurrences loopFront (safeCalls t) = Text.occurrences loopFront t :=
          Text.occurrences_replaceAll hspares.ne_nil hspares.needle hspares.new
        rw [occurrences_apply hunaffected hfirst, hcalls, occurrences_loopFront_loopOf] }

/-- A span with separate modules that every runtime rule accepts, and that reads two properties. -/
def modularSpan : Text :=
  declaration Names.moduleCache ++ (Bootstrap.toStringTagTest ++ (';' :: Bootstrap.toStringTag) ++
    (';' :: Bootstrap.defineProperty) ++ Bootstrap.hasOwnProperty ++ Bootstrap.ownershipCheck ++
    ";__webpack_require__.m;".toList ++ trailer)

/-- A chunk with this span, and exports with one entry. -/
def modularSample : Text :=
  modularSpan ++ " \x7ba\x7d".toList

theorem loopOf_modularSpan : loopOf modularSpan = some (guardLoop ["o".toList, "m".toList]) := by
  have hnames : properties modularSpan = ["o".toList, "m".toList] := by
    rw [properties_eq]
    decide +kernel
  have hlayout : layoutOf modularSpan = .modular := by decide +kernel
  rw [loopOf, hlayout, loopFor, hnames]
  rfl

theorem admits_modularSpan : ∀ i < 6, Bootstrap.Admits modularSpan {} i := by
  have hspan : IsSpan Names.moduleCache modularSpan := ⟨by decide, _, rfl⟩
  obtain ⟨body, hguard⟩ := hspan.exists_guard_eq
  intro i hi
  interval_cases i
  · refine not_not.mp (mt (Bootstrap.guard_idle_iff {}).mpr fun heq => ?_)
    exact hspan.ne_safeDeclaration_append _ (hguard.symm.trans heq)
  · show Bootstrap.toStringTagTest <:+: modularSpan
    decide +kernel
  · exact ⟨declaration Names.moduleCache ++ Bootstrap.toStringTagTest ++ [';'],
      (';' :: Bootstrap.defineProperty) ++ Bootstrap.hasOwnProperty ++ Bootstrap.ownershipCheck ++
        ";__webpack_require__.m;".toList ++ trailer, by decide +kernel, by decide +kernel⟩
  · show Bootstrap.defineProperty <:+: modularSpan
    decide +kernel
  · show Bootstrap.hasOwnProperty <:+: modularSpan
    decide +kernel
  · show Bootstrap.ownershipCheck <:+: modularSpan
    decide +kernel

theorem first?_modularSample :
    (spans.first? (safeCalls modularSample)).map (fun hit => (hit.gap, hit.groups.whole, hit.groups.after)) =
      some ([], modularSpan, " \x7ba\x7d".toList) := by
  decide +kernel

theorem guardSites_modularSample_ne :
    let text := guardLoop ["o".toList, "m".toList] ++
      Text.replaceEach Bootstrap.replacements (guard modularSpan) ++ " \x7ba\x7d".toList
    guardSites text ≠ text := by
  decide +kernel

theorem hardened_modularSpan : hardened modularSpan =
    guardLoop ["o".toList, "m".toList] ++ Text.replaceEach Bootstrap.replacements (guard modularSpan) := by
  rw [hardened_eq, replacementsFor, loopOf_modularSpan]
  rfl

theorem exists_apply_modularSample : ∃ hit out, locate? (safeCalls modularSample) = some hit ∧
    hit.groups.whole = modularSpan ∧ (rules.apply modularSample {}).result = .ok out := by
  obtain ⟨hit, hfirst, heq⟩ := Option.map_eq_some_iff.mp first?_modularSample
  obtain ⟨hgap, hwhole, hafter⟩ : hit.gap = [] ∧ hit.groups.whole = modularSpan ∧
      hit.groups.after = " \x7ba\x7d".toList := by
    simpa only [Prod.mk.injEq] using heq
  have hsteps : stepsFor modularSpan = Bootstrap.steps := by
    rw [stepsFor, loopOf_modularSpan]
    rfl
  have hhardened : hardenedAt hit = guardLoop ["o".toList, "m".toList] ++
      Text.replaceEach Bootstrap.replacements (guard modularSpan) ++ " \x7ba\x7d".toList := by
    rw [hardenedAt, hgap, hwhole, hafter, hardened_modularSpan]
    rfl
  have hresult := result_apply_of_some {} hfirst
  rw [hwhole, hsteps, Bootstrap.firstIdle?_of_admits {} admits_modularSpan, hhardened] at hresult
  exact ⟨hit, _, (locate?_eq _).trans hfirst, hwhole, hresult.trans (if_neg guardSites_modularSample_ne)⟩

/-- The two properties of the sample are pinned by the one loop there is. -/
theorem pins_apply_modularSample :
    ∃ hit text out, (rules.apply modularSample {}).result = .ok out ∧ hit.groups.whole = modularSpan ∧
      Pins modularSample {} hit (some text) out ∧ Text.occurrences loopFront out = 1 := by
  obtain ⟨hit, out, hlocated, hwhole, hresult⟩ := exists_apply_modularSample
  obtain ⟨hit', loop, hlocated', -, hpins⟩ := pins_apply hresult
  obtain rfl : hit = hit' := Option.some.inj (hlocated.symm.trans hlocated')
  obtain ⟨hlayout, haccess⟩ := isSome_loopOf_iff.mp (by rw [loopOf_modularSpan]; rfl)
  have hspan := isSpan_of_read (Form.of_first? ((locate?_eq _).symm.trans hlocated)).2
  rw [← hwhole] at haccess
  rw [← hwhole, layoutOf, hspan.holderOf_eq] at hlayout
  obtain ⟨text, rfl⟩ := Option.isSome_iff_exists.mp (hpins.called.mpr ⟨hlayout, haccess⟩)
  have hbefore : Text.occurrences loopFront modularSample = 0 := by decide +kernel
  exact ⟨hit, text, out, hresult, hwhole, hpins, by rw [hpins.once, hbefore]; rfl⟩

end Pinned

end MainChunk

end BundleHardening
