import BundleHardening.Proofs.Hardening.ObjectLiteral
import BundleHardening.Proofs.Text.Overlap

/-!
# Texts with entries put in

Whatever the guards do to a text, the result is that text with null-prototype entries put behind some of
its braces (`Entered`).  A text that cannot be taken for a part of an entry is *foreign* to it; foreign
text stands behind exactly where it stood before (`Entered.infix_iff`), and replacing it makes no
difference to what was entered (`Entered.replaceAll`).

Guarding a text into which entries were put already puts further ones into the same text
(`furthers_rewrite`): none comes where one is.  So what several guards leave is one text with entries,
and in a text that had no `__proto__` every one is that of an entry (`Entered.sealed`).
-/

set_option autoImplicit false

namespace BundleHardening

open ObjectLiteral

/-- What follows an entry: a comma, or nothing where the literal ends at once. -/
def Closes (sep out : Text) : Prop :=
  sep = [','] ∨ sep = [] ∧ ['\x7d'] <+: out

/-- The second text is the first one with an entry put behind some of its braces.  Blank space behind
such a brace is dropped. -/
inductive Entered : Text → Text → Prop where
  | nil : Entered [] []
  | keep {t out : Text} (c : Char) : Entered t out → Entered (c :: t) (c :: out)
  | entry {blanks sep t out : Text} (blank : ∀ c ∈ blanks, isBlank c = true)
      (closes : Closes sep out) : Entered t out →
    Entered ('\x7b' :: (blanks ++ t)) ('\x7b' :: (nullProto ++ (sep ++ out)))

/-- A text that cannot be taken for a part of an entry, nor begin in the blank space that an entry
drops. -/
structure Foreign (k : Text) : Prop where
  ne_nil : k ≠ []
  brace : '\x7b' ∉ k
  head : k.head?.all (fun c => !isBlank c && c != '\x7d') = true
  entry : ∀ sep ∈ [[], [',']], Text.overlaps k ('\x7b' :: (nullProto ++ sep)) = []

instance (k : Text) : Decidable (Foreign k) :=
  decidable_of_iff (k ≠ [] ∧ '\x7b' ∉ k ∧ k.head?.all (fun c => !isBlank c && c != '\x7d') = true ∧
    ∀ sep ∈ [[], [',']], Text.overlaps k ('\x7b' :: (nullProto ++ sep)) = [])
    ⟨fun ⟨a, b, c, d⟩ => ⟨a, b, c, d⟩, fun ⟨a, b, c, d⟩ => ⟨a, b, c, d⟩⟩

theorem Closes.mem {sep out : Text} (h : Closes sep out) : sep ∈ [[], [',']] := by
  rcases h with rfl | ⟨rfl, -⟩ <;> simp

theorem brace_not_mem_entry {sep : Text} (h : sep ∈ [[], [',']]) : '\x7b' ∉ nullProto ++ sep := by
  rcases List.mem_pair.mp h with rfl | rfl <;> decide

namespace Foreign

variable {k sep blanks : Text}

theorem head_ne (h : Foreign k) {c : Char} (hc : isBlank c = true ∨ c = '\x7d') :
    k.head? ≠ some c := by
  intro heq
  have hhead := h.head
  rw [heq] at hhead
  rcases hc with hc | rfl
  · simp [hc] at hhead
  · simp at hhead

/-- It begins neither at a brace nor in the blank space behind. -/
theorem overlaps_blanks (h : Foreign k) (hblanks : ∀ c ∈ blanks, isBlank c = true) :
    Text.overlaps k ('\x7b' :: blanks) = [] := by
  refine Text.overlaps_eq_nil_of_head h.ne_nil (List.forall_mem_cons.mpr ⟨fun heq => ?_, ?_⟩)
  · exact h.brace (List.mem_of_mem_head? heq)
  · exact fun c hc => h.head_ne (Or.inl (hblanks c hc))

end Foreign

namespace Entered

variable {k needle new t out s : Text} {c : Char}

theorem refl (t : Text) : Entered t t := by
  induction t with
  | nil => exact .nil
  | cons c t ih => exact ih.keep c

theorem append_left (front : Text) (h : Entered t out) : Entered (front ++ t) (front ++ out) := by
  induction front with
  | nil => exact h
  | cons c front ih => exact ih.keep c

theorem append {t' out' : Text} (h : Entered t out) (h' : Entered t' out') :
    Entered (t ++ t') (out ++ out') := by
  induction h with
  | nil => exact h'
  | keep c _ ih => exact ih.keep c
  | @entry blanks sep t out blank closes _ ih =>
    have hcloses : Closes sep (out ++ out') :=
      closes.imp_right fun ⟨hsep, hend⟩ => ⟨hsep, hend.trans (List.prefix_append out out')⟩
    simpa using Entered.entry blank hcloses ih

theorem of_cons (hc : c ≠ '\x7b') (h : Entered (c :: t) out) :
    ∃ out', out = c :: out' ∧ Entered t out' := by
  cases h with
  | keep _ h => exact ⟨_, rfl, h⟩
  | entry => exact absurd rfl hc

theorem of_cons_right (hc : c ≠ '\x7b') (h : Entered t (c :: out)) :
    ∃ t', t = c :: t' ∧ Entered t' out := by
  cases h with
  | keep _ h => exact ⟨_, rfl, h⟩
  | entry => exact absurd rfl hc

/-- A beginning without braces is kept. -/
theorem of_append (hs : '\x7b' ∉ s) (h : Entered (s ++ t) out) :
    ∃ out', out = s ++ out' ∧ Entered t out' := by
  induction s generalizing out with
  | nil => exact ⟨out, rfl, h⟩
  | cons c s ih =>
    obtain ⟨hc, hs⟩ := not_or.mp (mt List.mem_cons.mpr hs)
    obtain ⟨behind, rfl, hbehind⟩ := h.of_cons (Ne.symm hc)
    obtain ⟨out', rfl, hrest⟩ := ih hs hbehind
    exact ⟨out', rfl, hrest⟩

/-- A beginning without braces was there before. -/
theorem of_append_right (hs : '\x7b' ∉ s) (h : Entered t (s ++ out)) :
    ∃ t', t = s ++ t' ∧ Entered t' out := by
  induction s generalizing t with
  | nil => exact ⟨t, rfl, h⟩
  | cons c s ih =>
    obtain ⟨hc, hs⟩ := not_or.mp (mt List.mem_cons.mpr hs)
    obtain ⟨behind, rfl, hbehind⟩ := h.of_cons_right (Ne.symm hc)
    obtain ⟨t', rfl, hrest⟩ := ih hs hbehind
    exact ⟨t', rfl, hrest⟩

theorem prefix_iff (hk : '\x7b' ∉ k) (h : Entered t out) : k <+: out ↔ k <+: t := by
  constructor
  · rintro ⟨rest, rfl⟩
    obtain ⟨t', rfl, -⟩ := h.of_append_right hk
    exact List.prefix_append k t'
  · rintro ⟨rest, rfl⟩
    obtain ⟨out', rfl, -⟩ := h.of_append hk
    exact List.prefix_append k out'

/-- Foreign text stands exactly where it stood before. -/
theorem infix_iff (hk : Foreign k) (h : Entered t out) : k <:+: out ↔ k <:+: t := by
  induction h with
  | nil => rfl
  | keep c h ih => rw [List.infix_cons_iff, List.infix_cons_iff, ih, (h.keep c).prefix_iff hk.brace]
  | @entry blanks sep t out blank closes _ ih =>
    have hout := Text.infix_append_iff_of_overlaps (u := out) (hk.entry sep closes.mem)
    have ht := Text.infix_append_iff_of_overlaps (u := t) (hk.overlaps_blanks blank)
    rw [List.cons_append, List.append_assoc] at hout
    rw [hout, ih, ← ht, List.cons_append]

/-- Replacing foreign text makes no difference to what was entered. -/
theorem replaceAll (hneedle : Foreign needle) (h : Entered t out) :
    Entered (Text.replaceAll needle new t) (Text.replaceAll needle new out) := by
  have hne := hneedle.ne_nil
  induction t using Text.replaceAll_induction hne generalizing out with
  | nil =>
    cases h
    exact .refl _
  | hit rest ih =>
    obtain ⟨out', rfl, hrest⟩ := h.of_append hneedle.brace
    rw [Text.replaceAll_append hne, Text.replaceAll_append hne]
    exact (ih hrest).append_left new
  | keep c t hpre ih =>
    rw [Text.replaceAll_cons hne new hpre]
    cases h with
    | keep _ h =>
      rw [Text.replaceAll_cons hne new (mt ((h.keep c).prefix_iff hneedle.brace).mp hpre)]
      exact (ih h).keep c
    | @entry blanks sep t out blank closes h =>
      have hblanks : '\x7b' ∉ blanks := fun hmem => by
        have hblank := blank _ hmem
        cases hblank
      have hover : Text.overlaps needle blanks = [] :=
        (Text.overlaps_cons_eq_nil_iff.mp (hneedle.overlaps_blanks blank)).2
      have hlater := ih (h.append_left blanks)
      rw [Text.replaceAll_append_left hne hover, Text.replaceAll_append_left hne hover] at hlater
      obtain ⟨out', heq, hinner⟩ := hlater.of_append hblanks
      rw [List.append_cancel_left_eq] at heq
      have hput := Text.replaceAll_append_left hne (hneedle.entry sep closes.mem) new out
      rw [List.cons_append, List.append_assoc, List.cons_append, List.append_assoc] at hput
      rw [Text.replaceAll_append_left hne hover, hput]
      refine .entry blank (closes.imp_right fun ⟨hsep, hend⟩ => ⟨hsep, ?_⟩) (heq ▸ hinner)
      obtain ⟨rest, rfl⟩ := hend
      have hbrace : ¬ needle <+: '\x7d' :: rest := by
        intro hle
        obtain ⟨d, tail, rfl⟩ := List.exists_cons_of_ne_nil hne
        exact hneedle.head_ne (Or.inr (List.cons_prefix_cons.mp hle).1) rfl
      rw [List.singleton_append, Text.replaceAll_cons hne new hbrace]
      exact List.prefix_append ['\x7d'] _

theorem replaceEach {pairs : List (Text × Text)} (hforeign : ∀ pair ∈ pairs, Foreign pair.1)
    (h : Entered t out) : Entered (Text.replaceEach pairs t) (Text.replaceEach pairs out) := by
  induction pairs generalizing t out with
  | nil => exact h
  | cons pair pairs ih =>
    obtain ⟨hpair, hpairs⟩ := List.forall_mem_cons.mp hforeign
    exact ih hpairs (h.replaceAll hpair)

end Entered

section Guarding

variable {t t' : Text}

/-- Whatever the first text comes from by entries, the second comes from by entries too. -/
def Furthers (t t' : Text) : Prop :=
  ∀ source, Entered source t → Entered source t'

namespace Furthers

theorem entered (h : Furthers t t') : Entered t t' :=
  h t (.refl t)

theorem cons (h : Furthers t t') (c : Char) : Furthers (c :: t) (c :: t') := by
  intro source hsource
  cases hsource with
  | keep _ hrest => exact (h _ hrest).keep c
  | @entry blanks sep source out blank closes hrest =>
    -- An entry that is there stays: nothing is put into it.
    have hentry := brace_not_mem_entry closes.mem
    have hlater : Entered ((nullProto ++ sep) ++ source) t' :=
      h _ (by simpa using hrest.append_left (nullProto ++ sep))
    obtain ⟨out', rfl, hrest'⟩ := hlater.of_append hentry
    have hcloses : Closes sep out' := closes.imp_right fun ⟨hsep, hend⟩ =>
      ⟨hsep, (hrest'.prefix_iff (by decide)).mpr ((hrest.prefix_iff (by decide)).mp hend)⟩
    simpa using Entered.entry blank hcloses hrest'

theorem append (h : Furthers t t') (front : Text) : Furthers (front ++ t) (front ++ t') := by
  induction front with
  | nil => exact h
  | cons c front ih => exact ih.cons c

/-- An entry is put in where none is. -/
theorem entry {blanks sep : Text} (h : Furthers t t') (blank : ∀ c ∈ blanks, isBlank c = true)
    (room : ¬ nullProto <+: t) (closes : Closes sep t') :
    Furthers ('\x7b' :: (blanks ++ t)) ('\x7b' :: (nullProto ++ (sep ++ t'))) := by
  have hblanks : '\x7b' ∉ blanks := fun hmem => by
    have hblank := blank _ hmem
    cases hblank
  intro source hsource
  generalize hbehind : blanks ++ t = behind at hsource
  cases hsource with
  | keep _ hrest =>
    rw [← hbehind] at hrest
    obtain ⟨source', rfl, hrest'⟩ := hrest.of_append_right hblanks
    exact .entry blank closes (h _ hrest')
  | @entry blanks' sep' source out blank' closes' hrest =>
    refine absurd ?_ room
    cases blanks with
    | nil =>
      rw [List.nil_append] at hbehind
      exact hbehind ▸ List.prefix_append nullProto _
    | cons b blanks =>
      have hblank := blank b List.mem_cons_self
      rw [(List.cons_eq_cons.mp hbehind).1] at hblank
      cases hblank

end Furthers

theorem isProtoKey_of_nullProto {next : Char} {rest : Text} (h : nullProto <+: next :: rest) :
    IsProtoKey next rest := by
  obtain ⟨behind, heq⟩ := h
  obtain ⟨rfl, rfl⟩ := List.cons_eq_cons.mp heq
  exact ⟨rfl, rfl⟩

theorem closes_separator (next : Char) (rest : Text) : Closes (separator next) (next :: rest) := by
  by_cases hnext : next = '\x7d'
  · exact Or.inr ⟨if_pos hnext, hnext ▸ List.prefix_append ['\x7d'] rest⟩
  · exact Or.inl (if_neg hnext)

/-- Guarding the literals behind openings that end in a brace puts in further entries. -/
theorem furthers_rewrite {opening : Regular} {start : Text → Option (Text × Text)}
    (h : opening.Takes start)
    (hbrace : ∀ {t taken rest}, start t = some (taken, rest) → ∃ front, taken = front ++ ['\x7b'])
    (t : Text) : Furthers t ((Form.entry h).rewrite guarded t) := by
  induction t using (Form.entry h).induction with
  | nil =>
    rw [Form.rewrite_nil]
    exact fun _ hsource => hsource
  | keep c t hread ih =>
    rw [Form.rewrite_cons _ _ hread]
    exact ih.cons c
  | hit t g hread ih =>
    rw [Form.rewrite_of_read _ _ hread]
    obtain ⟨⟨taken, middle⟩, hstart, hmiddle⟩ := Option.bind_eq_some_iff.mp hread
    obtain ⟨⟨blanks, next, rest⟩, hin, rfl⟩ := Option.map_eq_some_iff.mp hmiddle
    obtain ⟨front, rfl⟩ := hbrace hstart
    obtain ⟨rfl, hblanks⟩ := of_firstInside? hin
    have hafter : (entryGroups (front ++ ['\x7b']) blanks next rest).after = rest := rfl
    rw [hafter] at ih ⊢
    rw [h.splits hstart]
    by_cases hkey : IsProtoKey next rest
    · rw [guarded_of_protoKey hkey]
      simpa using ih.append (front ++ ['\x7b'] ++ blanks ++ [next])
    · rw [guarded_of_not_protoKey hkey]
      have hput := ((ih.cons next).entry hblanks (mt isProtoKey_of_nullProto hkey)
        (closes_separator next _)).append front
      simpa using hput

/-- Guarding every literal puts entries in. -/
theorem entered_guard (t : Text) : Entered t (guard t) :=
  (furthers_rewrite takes_opening exists_eq_append_brace t).entered

end Guarding

section Sealed

/-- The key of an entry. -/
def protoKey : Text :=
  "__proto__".toList

/-- The key stands only where an entry is: behind a brace, with what completes the entry behind it. -/
def Sealed (t : Text) : Prop :=
  ∀ front rest, t = front ++ (protoKey ++ rest) →
    ['\x7b'] <:+ front ∧ (": null,".toList <+: rest ∨ ": null\x7d".toList <+: rest)

theorem overlaps_protoKey {sep : Text} (h : sep ∈ [[], [',']]) :
    Text.overlaps protoKey ('\x7b' :: (nullProto ++ sep)) = [(['\x7b'], nullProto ++ sep)] := by
  rcases List.mem_pair.mp h with rfl | rfl <;> decide

/-- Entries put into a text that holds no such key are all there is of it. -/
theorem Entered.sealed {t out : Text} (hfree : ¬ protoKey <:+: t) (h : Entered t out) : Sealed out := by
  induction h with
  | nil =>
    intro front rest heq
    cases front <;> cases heq
  | @keep t out c h ih =>
    have hpre : ¬ protoKey <+: c :: t := fun hle => hfree hle.isInfix
    have hlater := ih fun hin => hfree (hin.trans (List.suffix_cons c t).isInfix)
    intro front rest heq
    cases front with
    | nil =>
      have hle : protoKey <+: c :: out := ⟨rest, heq.symm⟩
      exact absurd (((h.keep c).prefix_iff (by decide)).mp hle) hpre
    | cons d front =>
      obtain ⟨hbrace, hrest⟩ := hlater front rest (List.cons_eq_cons.mp heq).2
      exact ⟨hbrace.trans (List.suffix_cons d front), hrest⟩
  | @entry blanks sep t out blank closes h ih =>
    have hlater := ih fun hin => hfree
      (hin.trans (List.suffix_append ('\x7b' :: blanks) t).isInfix)
    intro front rest heq
    have hsplit : front ++ (protoKey ++ rest) = ('\x7b' :: (nullProto ++ sep)) ++ out := by
      rw [← heq]
      simp
    rcases Text.eq_append_or_mem_overlaps hsplit with ⟨more, rfl, hout⟩ | ⟨behind, hmem, hrest⟩
    · obtain ⟨hbrace, hrest⟩ := hlater more rest hout
      exact ⟨hbrace.trans (List.suffix_append _ more), hrest⟩
    · rw [overlaps_protoKey closes.mem, List.mem_singleton, Prod.mk.injEq] at hmem
      obtain ⟨rfl, rfl⟩ := hmem
      have hnull : rest = ": null".toList ++ (sep ++ out) := by
        have hkey : protoKey ++ rest = protoKey ++ (": null".toList ++ (sep ++ out)) := by
          rw [hrest, List.append_assoc]
          rfl
        exact List.append_cancel_left hkey
      refine ⟨List.suffix_refl _, ?_⟩
      rw [hnull]
      rcases closes with rfl | ⟨rfl, ⟨rest, rfl⟩⟩
      · exact Or.inl (List.prefix_append ": null,".toList out)
      · exact Or.inr (List.prefix_append ": null\x7d".toList rest)

end Sealed

end BundleHardening
