import BundleHardening.Proofs.Hardening.Entry
import Mathlib.Tactic.FinCases

/-!
# The object literal guard

The guard acts as the function `guard`, which rewrites every opening of a literal.  What it keeps is
said first: the characters of a text up to the first one behind which a literal may stand, and a tail
without braces.
-/

set_option autoImplicit false

namespace BundleHardening.ObjectLiteral

open Regular

/-- The characters behind which a literal may stand. -/
def openers : Class :=
  .union (.single '[') (.union (.single '(') (.union (.single ',') (.union (.single '=') (.single ':'))))

theorem mem_of_opener {c : Char} (hc : openers.contains c = true) : c ∈ ['[', '(', ',', '=', ':'] := by
  simp only [openers, Class.contains, Bool.or_eq_true, beq_iff_eq] at hc
  rcases hc with rfl | rfl | rfl | rfl | rfl <;> decide

theorem not_blank_of_opener {c : Char} (hc : openers.contains c = true) : isBlank c = false := by
  have hmem := mem_of_opener hc
  fin_cases hmem <;> rfl

theorem not_opener_of_blank {c : Char} (hc : isBlank c = true) : openers.contains c = false := by
  by_contra hopener
  rw [not_blank_of_opener (Bool.eq_true_of_not_eq_false hopener)] at hc
  cases hc

theorem ne_brace_of_opener {c : Char} (hc : openers.contains c = true) : c ≠ '\x7b' := by
  rintro rfl
  cases hc

/-- The pattern of an opening: one of those characters, blank space, and the brace. -/
def opening : Regular :=
  .seq (.set openers) (sequence [run .blank, .set (.single '\x7b')])

/-- Splits off an opening. -/
def opening? (t : Text) : Option (Text × Text) :=
  (oneOf? openers t).bind fun (taken, rest) =>
    (runThen .blank (.single '\x7b') rest).map fun (more, rest) => (taken ++ more, rest)

theorem takes_opening : opening.Takes opening? := by
  refine (takes_set openers).seq (takes_runThen fun x hx => ?_)
  by_contra hbrace
  have heq : '\x7b' = x := by simpa [Class.contains] using hbrace
  rw [← heq] at hx
  cases hx

/-- The form of an opening and the first character inside. -/
def openings : Form :=
  .entry takes_opening

/-- The pattern finds the openings. -/
theorem openingPattern_finds : ∃ p, Pattern.ofText openingPattern = .ok p ∧ p.Finds openings :=
  Pattern.finds_ofText (r := opening.entry) (by decide +kernel) (by decide +kernel)
    (reads_entry takes_opening rfl rfl)

/-- The text with every literal guarded. -/
def guard (t : Text) : Text :=
  openings.rewrite guarded t

/-- The substitution of the guard. -/
def guardSubstitution : Substitution :=
  .regex "object-literal-guard" openingPattern (.computed guardEntry)

/-- The guard acts as the function. -/
theorem acts_guard : guardSubstitution.Acts guard := by
  obtain ⟨p, hp, hfinds⟩ := openingPattern_finds
  exact Substitution.acts_of_finds hp hfinds rfl
    (fun ctx hits => Run.each_done (fun _ => rfl) hits) (fun t hmay => nomatch hmay)

/-- The guard as a step. -/
def guardStep : Step where
  substitution := guardSubstitution
  act := guard
  mandatory := rfl
  acts := acts_guard

section Kept

variable {c : Char} {t rest : Text}

theorem opening?_cons (hc : openers.contains c = true) (t : Text) :
    opening? (c :: t) =
      (runThen .blank (.single '\x7b') t).map fun (more, rest) => (c :: more, rest) := by
  rw [opening?, oneOf?, if_pos hc]
  rfl

theorem opening?_of_not_opener (hc : openers.contains c = false) (t : Text) :
    opening? (c :: t) = none := by
  rw [opening?, oneOf?, if_neg (by simp [hc])]
  rfl

/-- An opening is a character behind which a literal may stand, with what runs from there up to the
brace. -/
theorem of_opening? {taken middle : Text} (h : opening? t = some (taken, middle)) :
    ∃ d u more, t = d :: u ∧ taken = d :: more ∧ openers.contains d = true ∧
      runThen .blank (.single '\x7b') u = some (more, middle) := by
  cases t with
  | nil => cases h
  | cons d u =>
    cases hd : openers.contains d with
    | false =>
      rw [opening?_of_not_opener hd] at h
      cases h
    | true =>
      rw [opening?_cons hd] at h
      obtain ⟨⟨more, _⟩, hmore, heq⟩ := Option.map_eq_some_iff.mp h
      cases heq
      exact ⟨d, u, more, rfl, rfl, hd, hmore⟩

theorem read_of_not_opener (hc : openers.contains c = false) (t : Text) :
    openings.read (c :: t) = none := by
  simp only [openings, Form.entry, opening?_of_not_opener hc, Option.bind_none]

theorem guard_of_not_opener (hc : openers.contains c = false) (t : Text) :
    guard (c :: t) = c :: guard t :=
  openings.rewrite_cons guarded (read_of_not_opener hc t)

@[simp]
theorem guard_nil : guard [] = [] :=
  openings.rewrite_nil guarded

theorem not_opener_of_any {front : Text} (h : front.any openers.contains = false) :
    ∀ c ∈ front, openers.contains c = false :=
  fun c hc => Bool.eq_false_iff.mpr (List.any_eq_false.mp h c hc)

/-- Text without characters behind which a literal may stand is kept. -/
theorem guard_append {front : Text} (h : ∀ c ∈ front, openers.contains c = false) (t : Text) :
    guard (front ++ t) = front ++ guard t := by
  induction front with
  | nil => rfl
  | cons c front ih =>
    obtain ⟨hc, hfront⟩ := List.forall_mem_cons.mp h
    rw [List.cons_append, guard_of_not_opener hc, ih hfront, List.cons_append]

/-- What a match of the form consists of. -/
theorem of_read {g : Groups} (h : openings.read t = some g) :
    ∃ taken middle blanks next rest, opening? t = some (taken, middle) ∧
      firstInside? middle = some (blanks, next, rest) ∧ g = entryGroups taken blanks next rest := by
  obtain ⟨⟨taken, middle⟩, hopen, h⟩ := Option.bind_eq_some_iff.mp h
  obtain ⟨⟨blanks, next, rest⟩, hin, rfl⟩ := Option.map_eq_some_iff.mp h
  exact ⟨taken, middle, blanks, next, rest, hopen, hin, rfl⟩

theorem read_eq {taken middle blanks : Text} {next : Char} (hopen : opening? t = some (taken, middle))
    (hin : firstInside? middle = some (blanks, next, rest)) :
    openings.read t = some (entryGroups taken blanks next rest) := by
  simp only [openings, Form.entry, hopen, hin, Option.bind_some, Option.map_some]

/-- Whether the first entry of a matched literal is a `__proto__` key. -/
def IsProtoKey (next : Char) (rest : Text) : Prop :=
  next = '_' ∧ continuesProtoKey rest = true

/-- What separates the entry put in from what follows it; an empty literal needs nothing. -/
def separator (next : Char) : Text :=
  if next = '\x7d' then [] else [',']

theorem guarded_of_protoKey {taken blanks : Text} {next : Char} (h : IsProtoKey next rest) :
    guarded (entryGroups taken blanks next rest) = taken ++ blanks ++ [next] := by
  obtain ⟨rfl, hkey⟩ := h
  simp [guarded, entryGroups, Groups.get, Groups.get?, Groups.whole, hkey]

theorem guarded_of_not_protoKey {taken blanks : Text} {next : Char} (h : ¬ IsProtoKey next rest) :
    guarded (entryGroups taken blanks next rest) =
      taken ++ nullProto ++ separator next ++ [next] := by
  have hget : (entryGroups taken blanks next rest).get 2 = [next] := rfl
  have hneg : ¬ ([next] = ['_'] ∧ continuesProtoKey rest = true) := by simpa [IsProtoKey] using h
  have hafter : (entryGroups taken blanks next rest).after = rest := rfl
  rw [guarded, hget, hafter, if_neg hneg]
  simp [entryGroups, Groups.get, Groups.get?, separator]

/-- The guarded form begins with what was taken. -/
theorem prefix_guarded (taken blanks : Text) (next : Char) (rest : Text) :
    taken <+: guarded (entryGroups taken blanks next rest) := by
  by_cases h : IsProtoKey next rest
  · rw [guarded_of_protoKey h, List.append_assoc]
    exact List.prefix_append _ _
  · rw [guarded_of_not_protoKey h, List.append_assoc, List.append_assoc]
    exact List.prefix_append _ _

/-- A character at the beginning stays there. -/
theorem exists_guard_cons (c : Char) (t : Text) : ∃ t', guard (c :: t) = c :: t' := by
  cases h : openings.read (c :: t) with
  | none => exact ⟨guard t, openings.rewrite_cons guarded h⟩
  | some g =>
    obtain ⟨taken, middle, blanks, next, rest, hopen, hin, rfl⟩ := of_read h
    have hc : openers.contains c = true := by
      by_contra hc
      rw [opening?_of_not_opener (Bool.eq_false_iff.mpr hc)] at hopen
      cases hopen
    rw [opening?_cons hc] at hopen
    obtain ⟨⟨more, _⟩, -, heq⟩ := Option.map_eq_some_iff.mp hopen
    cases heq
    obtain ⟨new, hnew⟩ := prefix_guarded (c :: more) blanks next rest
    refine ⟨more ++ new ++ guard rest, ?_⟩
    have hread := openings.rewrite_of_read guarded h
    rw [← hnew] at hread
    exact hread.trans (by simp [guard, entryGroups])

/-- An opening ends in its brace. -/
theorem exists_eq_append_brace {taken middle : Text} (h : opening? t = some (taken, middle)) :
    ∃ front, taken = front ++ ['\x7b'] := by
  obtain ⟨⟨left, _⟩, -, hmore⟩ := Option.bind_eq_some_iff.mp h
  obtain ⟨⟨more, _⟩, hthen, heq⟩ := Option.map_eq_some_iff.mp hmore
  cases heq
  obtain ⟨front, last, rfl, -, -, hlast⟩ := of_runThen hthen
  have hbrace : '\x7b' = last := beq_iff_eq.mp hlast
  exact ⟨left ++ front, by rw [hbrace, List.append_assoc]⟩

/-- A text without braces is kept. -/
theorem guard_of_no_brace (h : '\x7b' ∉ t) : guard t = t := by
  refine openings.rewrite_of_misses guarded fun s hs => ?_
  cases hread : openings.read s with
  | none => rfl
  | some g =>
    obtain ⟨taken, middle, blanks, next, rest, hopen, -, -⟩ := of_read hread
    obtain ⟨front, rfl⟩ := exists_eq_append_brace hopen
    refine absurd (hs.subset ?_) h
    rw [takes_opening.splits hopen]
    simp

theorem exists_guarded_eq (taken blanks : Text) (next : Char) (rest : Text) :
    ∃ front, guarded (entryGroups taken blanks next rest) = front ++ [next] := by
  by_cases h : IsProtoKey next rest
  · exact ⟨_, guarded_of_protoKey h⟩
  · exact ⟨_, guarded_of_not_protoKey h⟩

theorem mem_of_append_eq {front blanks inner : Text} {b d : Char}
    (h : t ++ d :: inner = front ++ b :: blanks) : d ∈ blanks ∨ b ∈ d :: inner := by
  rcases List.append_eq_append_iff.mp h with ⟨part, -, hpart⟩ | ⟨part, -, hpart⟩
  · exact Or.inr (by simp [hpart])
  · cases part with
    | nil => exact Or.inr (by rw [(List.cons_eq_cons.mp hpart).1]; exact List.mem_cons_self)
    | cons e part => exact Or.inl (by rw [(List.cons_eq_cons.mp hpart).2]; simp)

/-- A text without braces at the end is kept, if it does not begin with blank space. -/
theorem exists_guard_append {mark : Text} (hbrace : '\x7b' ∉ mark)
    (hhead : ∀ c ∈ mark.head?, isBlank c = false) (t : Text) :
    ∃ t', guard (t ++ mark) = t' ++ mark := by
  generalize hu : t ++ mark = u
  induction u using openings.induction generalizing t with
  | nil => exact ⟨[], by rw [guard_nil, (List.append_eq_nil_iff.mp hu).2]; rfl⟩
  | keep c u h ih =>
    cases t with
    | nil => exact ⟨[], by rw [← hu, List.nil_append, guard_of_no_brace hbrace]⟩
    | cons d t =>
      obtain ⟨rfl, htail⟩ := List.cons_eq_cons.mp hu
      obtain ⟨t', ht'⟩ := ih t htail
      exact ⟨d :: t', by rw [guard, openings.rewrite_cons guarded h, ← guard, ht']; rfl⟩
  | hit u g h ih =>
    obtain ⟨taken, middle, blanks, next, rest, hopen, hin, rfl⟩ := of_read h
    obtain ⟨hmiddle, hblanks⟩ := of_firstInside? hin
    obtain ⟨front, rfl⟩ := exists_eq_append_brace hopen
    obtain ⟨new, hnew⟩ := exists_guarded_eq (front ++ ['\x7b']) blanks next rest
    have hguard : guard u = new ++ next :: guard rest := by
      rw [guard, openings.rewrite_of_read guarded h, hnew, List.append_assoc]
      rfl
    have hsplit : t ++ mark = (front ++ '\x7b' :: blanks) ++ next :: rest := by
      rw [hu, takes_opening.splits hopen, hmiddle]
      simp
    have hlast (hmark : mark = next :: rest) : ∃ t', guard u = t' ++ mark := by
      have hno : '\x7b' ∉ rest := fun hmem => hbrace (hmark ▸ List.mem_cons_of_mem next hmem)
      exact ⟨new, by rw [hguard, guard_of_no_brace hno, hmark]⟩
    -- The match ends in front of the mark or with its first character: it cannot reach further, for then
    -- the mark would begin with blank space or hold the brace.
    rcases List.append_eq_append_iff.mp hsplit with ⟨inner, hinner, hmark⟩ | ⟨inner, -, hrest⟩
    · cases inner with
      | nil => exact hlast hmark
      | cons d inner =>
        rcases mem_of_append_eq hinner.symm with hd | hd
        · have hno := hhead d (by rw [hmark]; rfl)
          rw [hblanks d hd] at hno
          cases hno
        · exact absurd (hmark ▸ List.mem_append_left _ hd) hbrace
    · cases inner with
      | nil => exact hlast hrest.symm
      | cons d inner =>
        obtain ⟨rfl, htail⟩ := List.cons_eq_cons.mp hrest
        obtain ⟨t', ht'⟩ := ih inner htail.symm
        have hrest' : guard rest = t' ++ mark := ht'
        exact ⟨new ++ next :: t', by rw [hguard, hrest', List.append_assoc]; rfl⟩

/-- An empty literal is guarded, and what stands before and behind it is kept apart. -/
theorem guard_append_emptyLiteral {front : Text} (h : ∀ c ∈ front, openers.contains c = false)
    (t : Text) :
    guard (front ++ ("= \x7b\x7d;".toList ++ t)) =
      front ++ ("= \x7b__proto__: null\x7d;".toList ++ guard t) := by
  have hread : openings.read ("= \x7b\x7d;".toList ++ t) =
      some (entryGroups "= \x7b".toList [] '\x7d' (';' :: t)) := rfl
  have hstep : guard ("= \x7b\x7d;".toList ++ t) = "= \x7b__proto__: null\x7d".toList ++ guard (';' :: t) :=
    openings.rewrite_of_read guarded hread
  rw [guard_append h, hstep, guard_of_not_opener rfl]
  simp

end Kept

end BundleHardening.ObjectLiteral
