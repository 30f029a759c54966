import BundleHardening.Hardening.Registry
import BundleHardening.Proofs.Pattern.Parts
import BundleHardening.Proofs.Text.Overlap

/-!
# The span of a registry

The span is a declaration of the registry, the text up to the first declaration of the exports behind
it, and that declaration.  The pattern for it reads exactly this form (`reads_span`), and the layout of
a chunk is told by the identifier in its first span.

`detectLayout_replaceAll` says that the layout stays the same when exact text is replaced that can
neither form nor break a declaration.
-/

set_option autoImplicit false

namespace BundleHardening.Registry

open Regular

/-- The identifiers that a registry is declared under. -/
def holders : List Text :=
  [Names.moduleCache, Names.require]

/-- The declaration of a registry under an identifier. -/
def declaration (holder : Text) : Text :=
  "var ".toList ++ (holder ++ " = \x7b\x7d;".toList)

/-- The declaration of a registry that inherits nothing. -/
def safeDeclaration (holder : Text) : Text :=
  "var ".toList ++ (holder ++ " = \x7b__proto__: null\x7d;".toList)

/-- The declaration of the exports of the entry, up to its equals sign. -/
def trailer : Text :=
  "var ".toList ++ Names.exports ++ " =".toList

/-- The pattern of a span. -/
def span : Regular :=
  sequence (letters "var ".toList ++ (.group 1 (choice holders) :: (letters " = \x7b\x7d;".toList ++
    (lazyRun .anything :: letters trailer))))

/-- Splits a declaration off, down to its identifier. -/
def declaration? (t : Text) : Option (Text × Text) :=
  (Text.after? "var ".toList t).bind fun t =>
    (Text.firstOf? holders t).bind fun split =>
      (Text.after? " = \x7b\x7d;".toList split.2).map (split.1, ·)

theorem firstOf?_holders {holder : Text} (h : holder ∈ holders) (t : Text) :
    Text.firstOf? holders (holder ++ t) = some (holder, t) := by
  rcases List.mem_pair.mp h with rfl | rfl <;> rfl

theorem declaration?_eq_some_iff {t holder rest : Text} :
    declaration? t = some (holder, rest) ↔ holder ∈ holders ∧ t = declaration holder ++ rest := by
  constructor
  · intro h
    obtain ⟨t₁, hvar, h⟩ := Option.bind_eq_some_iff.mp h
    obtain ⟨⟨name, t₂⟩, hname, h⟩ := Option.bind_eq_some_iff.mp h
    obtain ⟨t₃, hassign, heq⟩ := Option.map_eq_some_iff.mp h
    cases heq
    obtain ⟨hmem, rfl⟩ := Text.firstOf?_eq_some hname
    have hsplit : t₂ = " = \x7b\x7d;".toList ++ rest := Text.after?_eq_some_iff.mp hassign
    refine ⟨hmem, ?_⟩
    rw [Text.after?_eq_some_iff.mp hvar, hsplit, declaration]
    simp only [List.append_assoc]
  · rintro ⟨hmem, rfl⟩
    simp only [declaration?, declaration, List.append_assoc, Text.after?_append, Option.bind_some,
      firstOf?_holders hmem, Option.map_some]

/-- The groups of a span. -/
def spanGroups (holder inner rest : Text) : Groups where
  groups := [some (declaration holder ++ (inner ++ trailer)), some holder]
  after := rest

/-- The form of a span. -/
def spans : Form where
  read t := (declaration? t).bind fun (holder, t) =>
    (Escape.cut? trailer t).map fun (inner, rest) => spanGroups holder inner rest
  splits {t g} h := by
    obtain ⟨⟨holder, middle⟩, hdecl, h⟩ := Option.bind_eq_some_iff.mp h
    obtain ⟨⟨inner, rest⟩, hcut, rfl⟩ := Option.map_eq_some_iff.mp h
    rw [(declaration?_eq_some_iff.mp hdecl).2, Text.eq_of_cut? hcut]
    simp [spanGroups, Groups.whole, Groups.get, Groups.get?]
  advances {t g} h := by
    obtain ⟨⟨holder, middle⟩, hdecl, h⟩ := Option.bind_eq_some_iff.mp h
    obtain ⟨⟨inner, rest⟩, hcut, rfl⟩ := Option.map_eq_some_iff.mp h
    simp [spanGroups, Groups.whole, Groups.get, Groups.get?, declaration]

/-- What a match of the form consists of. -/
theorem of_read {t : Text} {g : Groups} (h : spans.read t = some g) :
    ∃ holder inner rest, holder ∈ holders ∧ g = spanGroups holder inner rest := by
  obtain ⟨⟨holder, middle⟩, hdecl, h⟩ := Option.bind_eq_some_iff.mp h
  obtain ⟨⟨inner, rest⟩, -, hg⟩ := Option.map_eq_some_iff.mp h
  exact ⟨holder, inner, rest, (declaration?_eq_some_iff.mp hdecl).1, hg.symm⟩

/-- A declaration with that of the exports somewhere behind it begins a span. -/
theorem read_declaration_append_ne_none {holder t : Text} (hmem : holder ∈ holders) (h : trailer <:+: t) :
    spans.read (declaration holder ++ t) ≠ none := by
  intro hnone
  simp only [spans, declaration?_eq_some_iff.mpr ⟨hmem, rfl⟩, Option.bind_some,
    Option.map_eq_none_iff] at hnone
  exact (Text.cut?_eq_none_iff (by decide)).mp hnone h

theorem whole_spanGroups (holder inner rest : Text) :
    (spanGroups holder inner rest).whole = declaration holder ++ (inner ++ trailer) :=
  rfl

theorem takes_holders : (choice holders).Takes (Text.firstOf? holders) :=
  takes_choice (by decide) (by decide +kernel)

/-- The marks of a span of so many characters. -/
def spanMarks (here : Cursor) (holder inner : Text) : Marks :=
  [(1, here.ahead (declaration holder ++ (inner ++ trailer)).length),
   (3, here.ahead ("var ".toList ++ holder).length), (2, here.ahead "var ".toList.length), (0, here)]

/-- The pattern of a span is tried in one way at each position. -/
theorem tries_span (here : Cursor) :
    (Regular.group 0 span).tries Ending.final here [] =
      (declaration? here.rest).bind fun split =>
        (Escape.cut? trailer split.2).map fun cut => spanMarks here split.1 cut.1 := by
  refine (tries_group_between takes_holders "var ".toList " = \x7b\x7d;".toList 1
    (lazyRun .anything :: letters trailer) _ here _).trans ?_
  rw [declaration?]
  cases hvar : Text.after? "var ".toList here.rest with
  | none => rfl
  | some t =>
    simp only [Option.bind_some]
    cases hname : Text.firstOf? holders t with
    | none => rfl
    | some split =>
      simp only [Option.bind_some]
      cases hassign : Text.after? " = \x7b\x7d;".toList split.2 with
      | none => rfl
      | some rest =>
        have hdecl : declaration? here.rest = some (split.1, rest) := by
          simp only [declaration?, hvar, hname, hassign, Option.bind_some, Option.map_some]
        have hrest : (here.ahead (declaration split.1).length).rest = rest := by
          rw [Cursor.rest_ahead, (declaration?_eq_some_iff.mp hdecl).2, List.drop_left]
        simp only [Option.bind_some, Option.map_some]
        rw [tries_sequence_cons, ← spelled, ← declaration,
          tries_lazyRun_spelled (by decide) (fun _ _ => rfl), hrest]
        cases Escape.cut? trailer rest with
        | none => rfl
        | some cut =>
          simp only [Option.bind_some, Option.map_some, Cursor.ahead_ahead, ← List.length_append]
          rfl

/-- The pattern matches what the form says. -/
theorem reads_span : span.Reads spans where
  advancing := by decide
  misses here h := by
    rw [tries_span]
    cases hdecl : declaration? here.rest with
    | none => rfl
    | some split =>
      have hcut : Escape.cut? trailer split.2 = none := by simpa [spans, hdecl] using h
      rw [Option.bind_some, hcut]
      rfl
  takes here g h := by
    obtain ⟨⟨holder, middle⟩, hdecl, h⟩ := Option.bind_eq_some_iff.mp h
    obtain ⟨⟨inner, rest⟩, hcut, rfl⟩ := Option.map_eq_some_iff.mp h
    have htext : here.rest = declaration holder ++ (inner ++ trailer) ++ rest := by
      rw [(declaration?_eq_some_iff.mp hdecl).2, Text.eq_of_cut? hcut]
      simp only [List.append_assoc]
    refine ⟨spanMarks here holder inner, [some (here.ahead "var ".toList.length,
      here.ahead ("var ".toList ++ holder).length)], ?_, ?_, ?_⟩
    · rw [tries_span, hdecl, Option.bind_some, hcut]
      rfl
    · rfl
    · rw [whole_spanGroups, Scan.groupsOf, Cursor.upTo_self_ahead, Cursor.rest_ahead, htext, List.take_left,
        List.drop_left]
      have hname : (here.ahead "var ".toList.length).upTo (here.ahead ("var ".toList ++ holder).length) =
          holder := by
        rw [Cursor.upTo_ahead, htext, declaration]
        simp
      simp only [List.map_cons, List.map_nil, Option.map_some, hname]
      rfl

/-- The written pattern finds the spans. -/
theorem spanPattern_finds : ∃ p, Pattern.ofText spanPattern = .ok p ∧ p.Finds spans :=
  Pattern.finds_ofText (by decide +kernel) (by decide +kernel) reads_span

/-- The first registry of a text. -/
def locate? (t : Text) : Option Hit :=
  Pattern.firstHit (Pattern.ofText spanPattern) t

theorem locate?_eq (t : Text) : locate? t = spans.first? t := by
  obtain ⟨p, hp, hfinds⟩ := spanPattern_finds
  rw [locate?, hp, Pattern.firstHit_eq hfinds]

section Layout

/-- The identifier that the first registry of a text is declared under. -/
def identifier? (t : Text) : Option Text :=
  (spans.first? t).map fun hit => hit.groups.get 1

/-- The layout is told by the identifier of the first registry. -/
theorem detectLayout_eq (t : Text) : detectLayout t = (identifier? t).map Layout.ofHolder := by
  obtain ⟨p, hp, hfinds⟩ := spanPattern_finds
  rw [detectLayout, hp, layoutBy, identifier?]
  cases hfirst : spans.first? t with
  | none => rw [hfinds.misses (Cursor.start t) hfirst]; rfl
  | some hit =>
    obtain ⟨parts, hfind, hgroups⟩ := hfinds.takes (Cursor.start t) hit hfirst
    obtain ⟨holder, inner, rest, hmem, hspan⟩ := of_read (Form.of_first? hfirst).2
    have hwhole : hit.groups.whole =
        "var ".toList ++ (holder ++ (" = \x7b\x7d;".toList ++ (inner ++ trailer))) := by
      rw [hspan, whole_spanGroups, declaration]
      simp only [List.append_assoc]
    have hholder : hit.groups.get 1 = holder := by rw [hspan]; rfl
    have hupTo : ((Cursor.start t).ahead hit.gap.length).upTo
        (((Cursor.start t).ahead hit.gap.length).ahead hit.groups.whole.length) =
          hit.groups.whole := by
      conv_rhs => rw [← hgroups]
      rfl
    have hname : (holder ++ (" = \x7b\x7d;".toList ++ (inner ++ trailer))).takeWhile (· != ' ') =
        holder := by
      rcases List.mem_pair.mp hmem with rfl | rfl <;> rfl
    rw [hfind]
    simp only [hupTo]
    rw [hwhole, Text.after?_append, Option.map_some, hname, Option.map_some, Option.map_some, hholder]

/-- The needle can be neither formed at, nor reach into, what marks a registry. -/
structure Unmarked (needle : Text) : Prop where
  ne_nil : needle ≠ []
  declaration : ∀ holder ∈ holders, Text.Apart needle (declaration holder)
  trailer : Text.Apart needle trailer

instance (needle : Text) : Decidable (Unmarked needle) :=
  decidable_of_iff (needle ≠ [] ∧ (∀ holder ∈ holders, Text.Apart needle (declaration holder)) ∧
    Text.Apart needle Registry.trailer)
    ⟨fun ⟨hne, hdeclaration, htrailer⟩ => ⟨hne, hdeclaration, htrailer⟩,
      fun h => ⟨h.ne_nil, h.declaration, h.trailer⟩⟩

variable {needle new : Text}

theorem declaration?_replaceAll (hneedle : Unmarked needle) (hnew : Unmarked new) (t : Text) :
    declaration? (Text.replaceAll needle new t) =
      (declaration? t).map fun split => (split.1, Text.replaceAll needle new split.2) := by
  cases h : declaration? t with
  | some split =>
    obtain ⟨hmem, rfl⟩ := declaration?_eq_some_iff.mp h
    rw [Text.replaceAll_append_left hneedle.ne_nil (hneedle.declaration _ hmem).right]
    exact declaration?_eq_some_iff.mpr ⟨hmem, rfl⟩
  | none =>
    cases h' : declaration? (Text.replaceAll needle new t) with
    | none => rfl
    | some split =>
      obtain ⟨hmem, hsplit⟩ := declaration?_eq_some_iff.mp h'
      have hafter := Text.after?_replaceAll hneedle.ne_nil (hneedle.declaration _ hmem)
        (hnew.declaration _ hmem) t
      rw [hsplit, Text.after?_append] at hafter
      obtain ⟨rest, hrest, -⟩ := Option.map_eq_some_iff.mp hafter.symm
      rw [declaration?_eq_some_iff.mpr ⟨hmem, Text.after?_eq_some_iff.mp hrest⟩] at h
      cases h

/-- A span begins in the same places, is declared under the same identifier and followed by the same
text. -/
theorem read_replaceAll (hneedle : Unmarked needle) (hnew : Unmarked new) (t : Text) :
    (spans.read (Text.replaceAll needle new t)).map (fun g => (g.get 1, g.after)) =
      (spans.read t).map fun g => (g.get 1, Text.replaceAll needle new g.after) := by
  simp only [spans, declaration?_replaceAll hneedle hnew]
  cases declaration? t with
  | none => rfl
  | some split =>
    simp only [Option.map_some, Option.bind_some,
      Text.cut?_replaceAll hneedle.ne_nil hneedle.trailer hnew.trailer]
    cases Escape.cut? trailer split.2 <;> rfl

/-- The identifier of the first registry of a text, and what stands behind its span. -/
def behind? (t : Text) : Option (Text × Text) :=
  (spans.first? t).map fun hit => (hit.groups.get 1, hit.groups.after)

theorem identifier?_eq (t : Text) : identifier? t = (behind? t).map Prod.fst := by
  rw [identifier?, behind?, Option.map_map]
  rfl

theorem behind?_of_read {t : Text} {g : Groups} (h : spans.read t = some g) :
    behind? t = some (g.get 1, g.after) := by
  rw [behind?, spans.first?_of_read h]
  rfl

theorem behind?_cons {c : Char} {t : Text} (h : spans.read (c :: t) = none) :
    behind? (c :: t) = behind? t := by
  rw [behind?, spans.first?_cons h, Option.map_map]
  rfl

theorem behind?_append_of_misses {front t : Text}
    (h : ∀ s, s <:+ front → s ≠ [] → spans.read (s ++ t) = none) : behind? (front ++ t) = behind? t := by
  rw [behind?, spans.first?_append_of_misses h, Option.map_map]
  rfl

theorem read_eq_none {t : Text} (h : ∀ holder ∈ holders, ¬ declaration holder <+: t) :
    spans.read t = none := by
  cases hread : spans.read t with
  | none => rfl
  | some g =>
    obtain ⟨⟨holder, rest⟩, hdecl, -⟩ := Option.bind_eq_some_iff.mp hread
    obtain ⟨hmem, rfl⟩ := declaration?_eq_some_iff.mp hdecl
    exact absurd (List.prefix_append _ rest) (h holder hmem)

/-- No span begins in a text that keeps the declarations out. -/
theorem behind?_append_of_overlaps {front : Text}
    (h : ∀ holder ∈ holders, Text.overlaps (declaration holder) front = []) (t : Text) :
    behind? (front ++ t) = behind? t := by
  refine behind?_append_of_misses fun s hs hne => read_eq_none fun holder hmem => ?_
  obtain ⟨before, rfl⟩ := hs
  exact Text.not_prefix_append (Text.overlaps_eq_nil_of_append (h holder hmem)) hne t

/-- No declaration begins with a character other than its first one. -/
theorem overlaps_declaration_of_not_mem {front : Text} (h : 'v' ∉ front) (holder : Text) :
    Text.overlaps (declaration holder) front = [] := by
  have hhead : (declaration holder).head? = some 'v' := rfl
  refine Text.overlaps_eq_nil_of_head (by simp [declaration]) fun c hc heq => h ?_
  rw [hhead] at heq
  cases heq
  exact hc

theorem behind?_append {front : Text} (h : 'v' ∉ front) (t : Text) :
    behind? (front ++ t) = behind? t :=
  behind?_append_of_overlaps (fun holder _ => overlaps_declaration_of_not_mem h holder) t

theorem Unmarked.behind?_append (h : Unmarked needle) (t : Text) : behind? (needle ++ t) = behind? t :=
  behind?_append_of_overlaps (fun holder hmem => (h.declaration holder hmem).left) t

/-- Replacing what can neither form nor break a registry leaves the first registry where it is, under its
identifier. -/
theorem behind?_replaceAll (hneedle : Unmarked needle) (hnew : Unmarked new) (t : Text) :
    behind? (Text.replaceAll needle new t) =
      (behind? t).map fun (holder, rest) => (holder, Text.replaceAll needle new rest) := by
  have hne := hneedle.ne_nil
  induction t using Text.replaceAll_induction hne with
  | nil => rw [Text.replaceAll_nil hne]; rfl
  | hit rest ih =>
    rw [Text.replaceAll_append hne, hnew.behind?_append, ih, hneedle.behind?_append]
  | keep c t hpre ih =>
    have hread := read_replaceAll hneedle hnew (c :: t)
    rw [Text.replaceAll_cons hne new hpre] at hread ⊢
    cases h : spans.read (c :: t) with
    | none =>
      rw [h, Option.map_none, Option.map_eq_none_iff] at hread
      rw [behind?_cons hread, behind?_cons h, ih]
    | some g =>
      rw [h] at hread
      obtain ⟨g', hg', heq⟩ := Option.map_eq_some_iff.mp hread
      rw [behind?_of_read hg', behind?_of_read h, heq]
      rfl

theorem identifier?_replaceAll (hneedle : Unmarked needle) (hnew : Unmarked new) (t : Text) :
    identifier? (Text.replaceAll needle new t) = identifier? t := by
  rw [identifier?_eq, identifier?_eq, behind?_replaceAll hneedle hnew, Option.map_map]
  rfl

theorem detectLayout_replaceAll (hneedle : Unmarked needle) (hnew : Unmarked new) (t : Text) :
    detectLayout (Text.replaceAll needle new t) = detectLayout t := by
  rw [detectLayout_eq, detectLayout_eq, identifier?_replaceAll hneedle hnew]

end Layout

end BundleHardening.Registry
