import BundleHardening.Proofs.Hardening.ObjectLiteral

/-!
# Guarding a second time

A match of the guard takes the first character inside the brace along, so an opening that begins with
that character is passed over: in `= {[{` the inner brace is not seen, since `[` belongs to the outer
match.  The comma that the guard puts in front of the character may open a literal as well, as in
`= {{`.  A second pass sees both.

`substitute_twice_unchanged_iff` says that nothing else is left over: a second pass changes nothing
exactly when no guarded match left such an opening behind.
-/

set_option autoImplicit false

namespace BundleHardening.ObjectLiteral

open Regular

variable {c : Char} {t : Text}

section Second

/-- An opening behind a character is kept, with the rest guarded. -/
theorem runThen_guard (t : Text) :
    runThen .blank (.single '\x7b') (guard t) =
      (runThen .blank (.single '\x7b') t).map fun split => (split.1, guard split.2) := by
  induction t with
  | nil => rw [guard_nil]; rfl
  | cons c t ih =>
    by_cases hc : openers.contains c = true
    · have hblank : Class.blank.contains c = false := not_blank_of_opener hc
      have hbrace : Class.contains (.single '\x7b') c = false := by
        simpa [Class.contains] using (ne_brace_of_opener hc).symm
      obtain ⟨t', ht'⟩ := exists_guard_cons c t
      rw [ht', runThen_cons, runThen_cons, hblank, hbrace]
      rfl
    · rw [guard_of_not_opener (Bool.eq_false_iff.mpr hc), runThen_cons, runThen_cons, ih]
      cases Class.blank.contains c with
      | true => simp [Function.comp_def]
      | false => cases Class.contains (.single '\x7b') c <;> simp

theorem after?_guard {start : Text} (h : ∀ c ∈ start, openers.contains c = false) (t : Text) :
    Text.after? start (guard t) = (Text.after? start t).map guard := by
  induction start generalizing t with
  | nil => simp [Text.after?]
  | cons d start ih =>
    obtain ⟨hd, hstart⟩ := List.forall_mem_cons.mp h
    cases t with
    | nil => rw [guard_nil]; rfl
    | cons c t =>
      by_cases heq : d = c
      · rw [← heq, guard_of_not_opener hd, Text.after?, if_pos rfl, ih hstart, Text.after?, if_pos rfl]
      · obtain ⟨t', ht'⟩ := exists_guard_cons c t
        rw [ht', Text.after?, if_neg heq, Text.after?, if_neg heq]
        rfl

theorem startsWith_trimStart_guard (c : Char) (t : Text) :
    ((guard t).trimStart).startsWith [c] = t.trimStart.startsWith [c] := by
  induction t with
  | nil => rw [guard_nil]
  | cons d t ih =>
    obtain ⟨t', ht'⟩ := exists_guard_cons d t
    cases hd : isBlank d with
    | false =>
      simp only [ht', Text.trimStart, List.dropWhile_cons, hd, Bool.false_eq_true, if_false,
        Text.startsWith, Text.after?]
      split <;> rfl
    | true =>
      rw [guard_of_not_opener (not_opener_of_blank hd)]
      simpa [Text.trimStart, hd] using ih

theorem continuesProtoKey_guard (t : Text) : continuesProtoKey (guard t) = continuesProtoKey t := by
  rw [continuesProtoKey, continuesProtoKey, after?_guard (not_opener_of_any (by decide))]
  cases Text.after? "_proto__".toList t with
  | none => rfl
  | some rest => exact startsWith_trimStart_guard ':' rest

theorem isProtoKey_guard (next : Char) (rest : Text) :
    IsProtoKey next (guard rest) ↔ IsProtoKey next rest := by
  rw [IsProtoKey, IsProtoKey, continuesProtoKey_guard]

theorem firstInside?_guard_eq_none (h : firstInside? t = none) : firstInside? (guard t) = none := by
  induction t with
  | nil => rw [guard_nil]; rfl
  | cons c t ih =>
    cases hblank : isBlank c with
    | false => rw [firstInside?_of_not_blank hblank] at h; cases h
    | true =>
      rw [firstInside?_of_blank hblank, Option.or_eq_none_iff, Option.map_eq_none_iff] at h
      rw [guard_of_not_opener (not_opener_of_blank hblank), firstInside?_of_blank hblank, ih h.1]
      by_cases hline : c = '\n'
      · rw [if_pos hline]; rfl
      · rw [if_neg hline] at h; cases h.2

/-- The first character inside is kept, and so is whether it begins a `__proto__` key. -/
theorem firstInside?_guard_eq_some {blanks rest : Text} {next : Char}
    (h : firstInside? t = some (blanks, next, rest)) :
    ∃ rest', firstInside? (guard t) = some (blanks, next, rest') ∧
      (IsProtoKey next rest' ↔ IsProtoKey next rest) := by
  induction t generalizing blanks with
  | nil => cases h
  | cons c t ih =>
    cases hblank : isBlank c with
    | false =>
      rw [firstInside?_of_not_blank hblank] at h
      cases h
      cases hnext : openers.contains next with
      | true =>
        -- What follows may come out in another way, but no key begins with such a character.
        obtain ⟨rest', hrest'⟩ := exists_guard_cons next rest
        have hno : next ≠ '_' := by rintro rfl; cases hnext
        exact ⟨rest', by rw [hrest', firstInside?_of_not_blank hblank], by simp [IsProtoKey, hno]⟩
      | false =>
        refine ⟨guard rest, ?_, isProtoKey_guard next rest⟩
        rw [guard_of_not_opener hnext, firstInside?_of_not_blank hblank]
    | true =>
      rw [firstInside?_of_blank hblank] at h
      rw [guard_of_not_opener (not_opener_of_blank hblank), firstInside?_of_blank hblank]
      cases hin : firstInside? t with
      | some found =>
        rw [hin] at h
        cases h
        obtain ⟨rest', hguard, hkey⟩ := ih hin
        exact ⟨rest', by rw [hguard]; rfl, hkey⟩
      | none =>
        rw [hin] at h
        rw [firstInside?_guard_eq_none hin]
        by_cases hline : c = '\n'
        · rw [if_pos hline] at h; cases h
        · rw [if_neg hline] at h ⊢
          cases h
          exact ⟨guard rest, rfl, isProtoKey_guard next rest⟩

end Second

/-- Whether the text begins with an opening that the guard changes. -/
def Unguarded (t : Text) : Prop :=
  ∃ taken middle blanks next rest, opening? t = some (taken, middle) ∧
    firstInside? middle = some (blanks, next, rest) ∧ ¬ IsProtoKey next rest

theorem not_unguarded_of_not_opener (hc : openers.contains c = false) (t : Text) :
    ¬ Unguarded (c :: t) := by
  rintro ⟨taken, middle, blanks, next, rest, hopen, -⟩
  rw [opening?_of_not_opener hc] at hopen
  cases hopen

theorem unguarded_iff {taken middle blanks rest : Text} {next : Char}
    (hopen : opening? t = some (taken, middle))
    (hin : firstInside? middle = some (blanks, next, rest)) :
    Unguarded t ↔ ¬ IsProtoKey next rest := by
  refine ⟨?_, fun hkey => ⟨taken, middle, blanks, next, rest, hopen, hin, hkey⟩⟩
  rintro ⟨_, _, _, _, _, hopen', hin', hkey⟩
  rw [hopen] at hopen'
  cases hopen'
  rw [hin] at hin'
  cases hin'
  exact hkey

theorem not_unguarded_of_read (h : openings.read t = none) : ¬ Unguarded t := by
  rintro ⟨taken, middle, blanks, next, rest, hopen, hin, -⟩
  rw [read_eq hopen hin] at h
  cases h

/-- A literal that is not guarded yet comes out different. -/
theorem guarded_append_ne (taken : Text) {blanks rest : Text} {next : Char}
    (h : ¬ IsProtoKey next rest) (hblanks : ∀ c ∈ blanks, isBlank c = true) (behind : Text) :
    guarded (entryGroups taken blanks next rest) ++ behind ≠ taken ++ (blanks ++ next :: rest) := by
  rw [guarded_of_not_protoKey h]
  intro heq
  simp only [List.append_assoc, List.append_cancel_left_eq] at heq
  cases blanks with
  | nil =>
    obtain ⟨hnext, hrest⟩ := List.cons_eq_cons.mp heq
    refine h ⟨hnext.symm, ?_⟩
    rw [← hrest]
    rfl
  | cons b blanks =>
    obtain ⟨hb, -⟩ := List.cons_eq_cons.mp heq
    have hblank := hblanks b List.mem_cons_self
    rw [← hb] at hblank
    cases hblank

/-- The characters of an opening behind the first one are none behind which a literal may stand. -/
theorem not_opener_of_opening? {taken middle : Text} (h : opening? (c :: t) = some (taken, middle)) :
    ∃ more, taken = c :: more ∧ t = more ++ middle ∧ ∀ d ∈ more, openers.contains d = false := by
  obtain ⟨_, _, more, heq, rfl, -, hmore⟩ := of_opening? h
  cases heq
  obtain ⟨front, last, rfl, hsplit, hfront, hlast⟩ := of_runThen hmore
  refine ⟨_, rfl, hsplit, fun d hd => ?_⟩
  rcases List.mem_append.mp hd with hd | hd
  · exact not_opener_of_blank (hfront d hd)
  · rw [List.mem_singleton.mp hd]
    have hbrace : '\x7b' = last := beq_iff_eq.mp hlast
    rw [← hbrace]
    rfl

/-- Behind the first character of an opening nothing else begins, up to what follows a key. -/
theorem guard_append_protoKey {more blanks rest : Text} {next : Char}
    (hmore : ∀ d ∈ more, openers.contains d = false) (hblanks : ∀ d ∈ blanks, isBlank d = true)
    (hkey : IsProtoKey next rest) (t : Text) :
    guard (more ++ (blanks ++ next :: t)) = more ++ (blanks ++ next :: guard t) := by
  have hnext : openers.contains next = false := by rw [hkey.1]; rfl
  rw [guard_append hmore, guard_append fun d hd => not_opener_of_blank (hblanks d hd),
    guard_of_not_opener hnext]

/-- The guard changes nothing where no literal is left unguarded. -/
theorem guard_cons_eq_iff (c : Char) (t : Text) :
    guard (c :: t) = c :: t ↔ ¬ Unguarded (c :: t) ∧ guard t = t := by
  cases h : openings.read (c :: t) with
  | none =>
    have hguard : guard (c :: t) = c :: guard t := openings.rewrite_cons guarded h
    simp [hguard, not_unguarded_of_read h]
  | some g =>
    obtain ⟨taken, middle, blanks, next, rest, hopen, hin, rfl⟩ := of_read h
    have hguard : guard (c :: t) = guarded (entryGroups taken blanks next rest) ++ guard rest :=
      openings.rewrite_of_read guarded h
    obtain ⟨more, rfl, rfl, hmore⟩ := not_opener_of_opening? hopen
    rw [hguard, unguarded_iff hopen hin]
    obtain ⟨rfl, hblanks⟩ := of_firstInside? hin
    by_cases hkey : IsProtoKey next rest
    · rw [guarded_of_protoKey hkey, guard_append_protoKey hmore hblanks hkey]
      simp [hkey]
    · have hne := guarded_append_ne (c :: more) hkey hblanks (guard rest)
      simpa [hkey] using hne

theorem opening?_append {taken middle : Text} (h : opening? t = some (taken, middle))
    (middle' : Text) : opening? (taken ++ middle') = some (taken, middle') := by
  obtain ⟨c, u, more, rfl, rfl, hc, hmore⟩ := of_opening? h
  rw [List.cons_append, opening?_cons hc, runThen_append hmore]
  rfl

theorem opening?_cons_guard (c : Char) (t : Text) :
    opening? (c :: guard t) = (opening? (c :: t)).map fun split => (split.1, guard split.2) := by
  cases hc : openers.contains c with
  | false => rw [opening?_of_not_opener hc, opening?_of_not_opener hc]; rfl
  | true =>
    rw [opening?_cons hc, opening?_cons hc, runThen_guard]
    simp [Function.comp_def]

/-- Guarding what follows a character leaves no opening at it that was not there, and takes none away. -/
theorem unguarded_cons_guard (c : Char) (t : Text) :
    Unguarded (c :: guard t) ↔ Unguarded (c :: t) := by
  constructor
  · rintro ⟨taken, middle', blanks, next, rest', hopen, hin, hkey⟩
    rw [opening?_cons_guard] at hopen
    obtain ⟨⟨_, middle⟩, hopen', heq⟩ := Option.map_eq_some_iff.mp hopen
    cases heq
    cases hin' : firstInside? middle with
    | none => rw [firstInside?_guard_eq_none hin'] at hin; cases hin
    | some found =>
      obtain ⟨blanks', next', rest⟩ := found
      obtain ⟨rest'', hguard, hiff⟩ := firstInside?_guard_eq_some hin'
      rw [hin] at hguard
      cases hguard
      exact ⟨_, middle, blanks, next, rest, hopen', hin', mt hiff.mpr hkey⟩
  · rintro ⟨taken, middle, blanks, next, rest, hopen, hin, hkey⟩
    obtain ⟨rest', hguard, hiff⟩ := firstInside?_guard_eq_some hin
    refine ⟨taken, guard middle, blanks, next, rest', ?_, hguard, mt hiff.mp hkey⟩
    rw [opening?_cons_guard, hopen]
    rfl

/-- At a comma put in front of a character the same openings stand whether what follows is guarded or
not. -/
theorem unguarded_comma_guard (next : Char) (rest : Text) :
    Unguarded (',' :: next :: guard rest) ↔ Unguarded (',' :: next :: rest) := by
  cases hnext : openers.contains next with
  | false => rw [← guard_of_not_opener hnext, unguarded_cons_guard]
  | true =>
    have hnone (t : Text) : opening? (',' :: next :: t) = none := by
      have hblank : Class.blank.contains next = false := not_blank_of_opener hnext
      have hbrace : Class.contains (.single '\x7b') next = false := by
        simpa [Class.contains] using (ne_brace_of_opener hnext).symm
      rw [opening?_cons rfl, runThen_cons, hblank, hbrace]
      rfl
    simp [Unguarded, hnone]

/-- What the guard puts in holds no opening of its own; only what follows may come out different. -/
theorem guard_nullProto_append_eq_iff (t : Text) :
    guard (nullProto ++ t) = nullProto ++ t ↔ guard t = t := by
  have hfront (t : Text) : nullProto ++ t = "__proto__".toList ++ ':' :: (" null".toList ++ t) := rfl
  have hcolon : ¬ Unguarded (':' :: (" null".toList ++ t)) := by
    rintro ⟨_, _, _, _, _, hopen, -⟩
    cases hopen
  rw [hfront, guard_append (not_opener_of_any (by decide)), List.append_cancel_left_eq,
    guard_cons_eq_iff, guard_append (not_opener_of_any (by decide)), List.append_cancel_left_eq]
  simp only [hcolon, not_false_eq_true, true_and]

/-- The comma is left out before a closing brace, and no opening begins at either. -/
theorem guard_separator_append_eq_iff (next : Char) (rest : Text) :
    guard (separator next ++ next :: guard rest) = separator next ++ next :: guard rest ↔
      (¬ Unguarded (',' :: next :: rest) ∧ ¬ Unguarded (next :: rest)) ∧
        guard (guard rest) = guard rest := by
  by_cases hnext : next = '\x7d'
  · have hcomma : ¬ Unguarded (',' :: next :: rest) := by
      rintro ⟨_, _, _, _, _, hopen, -⟩
      rw [hnext] at hopen
      cases hopen
    have hbrace : ¬ Unguarded (next :: rest) := by
      rw [hnext]
      exact not_unguarded_of_not_opener rfl rest
    simp only [separator, if_pos hnext, List.nil_append, guard_cons_eq_iff, unguarded_cons_guard, hcomma, hbrace,
      not_false_eq_true, true_and]
  · simp only [separator, if_neg hnext, List.singleton_append, guard_cons_eq_iff, unguarded_comma_guard,
      unguarded_cons_guard, and_assoc]

section Match

variable {taken middle blanks rest : Text} {next : Char}

theorem guard_of_opening (hopen : opening? t = some (taken, middle))
    (hin : firstInside? middle = some (blanks, next, rest)) :
    guard t = guarded (entryGroups taken blanks next rest) ++ guard rest :=
  openings.rewrite_of_read guarded (read_eq hopen hin)

/-- Behind a match that is kept a second pass sees what it would see without the match. -/
theorem guard_guard_iff_of_protoKey (hopen : opening? t = some (taken, middle))
    (hin : firstInside? middle = some (blanks, next, rest)) (hkey : IsProtoKey next rest) :
    guard (guard t) = guard t ↔ guard (guard rest) = guard rest := by
  have hguard := guard_of_opening hopen hin
  have hun := unguarded_iff hopen hin
  cases t with
  | nil => cases hopen
  | cons c t =>
    obtain ⟨more, rfl, rfl, hmore⟩ := not_opener_of_opening? hopen
    obtain ⟨rfl, hblanks⟩ := of_firstInside? hin
    have hskip : guard (c :: (more ++ (blanks ++ next :: rest))) =
        c :: guard (more ++ (blanks ++ next :: rest)) := by
      rw [hguard, guarded_of_protoKey hkey, guard_append_protoKey hmore hblanks hkey]
      simp
    rw [hskip, guard_cons_eq_iff, unguarded_cons_guard, hun, guard_append_protoKey hmore hblanks hkey,
      guard_append_protoKey hmore hblanks hkey]
    simp [hkey]

/-- Behind a match that is guarded a second pass sees the comma and the first character inside too. -/
theorem guard_guard_iff_of_not_protoKey (hopen : opening? t = some (taken, middle))
    (hin : firstInside? middle = some (blanks, next, rest)) (hkey : ¬ IsProtoKey next rest) :
    guard (guard t) = guard t ↔
      (¬ Unguarded (',' :: next :: rest) ∧ ¬ Unguarded (next :: rest)) ∧
        guard (guard rest) = guard rest := by
  have hguard := guard_of_opening hopen hin
  cases t with
  | nil => cases hopen
  | cons c t =>
    obtain ⟨more, rfl, rfl, hmore⟩ := not_opener_of_opening? hopen
    have hput : guard (c :: (more ++ middle)) =
        c :: (more ++ (nullProto ++ (separator next ++ next :: guard rest))) := by
      rw [hguard, guarded_of_not_protoKey hkey]
      simp
    have hdone (t : Text) : ¬ Unguarded (c :: (more ++ (nullProto ++ t))) := by
      have hopen' : opening? (c :: (more ++ (nullProto ++ t))) = some (c :: more, nullProto ++ t) :=
        opening?_append hopen (nullProto ++ t)
      rw [unguarded_iff hopen' rfl, not_not]
      exact ⟨rfl, rfl⟩
    rw [hput, guard_cons_eq_iff, guard_append hmore, List.append_cancel_left_eq,
      guard_nullProto_append_eq_iff, guard_separator_append_eq_iff]
    simp only [hdone, not_false_eq_true, true_and]

/-- A match changes exactly when its first entry is not a `__proto__` key. -/
theorem guarded_ne_whole_iff (hin : firstInside? middle = some (blanks, next, rest)) :
    guarded (entryGroups taken blanks next rest) ≠ (entryGroups taken blanks next rest).whole ↔
      ¬ IsProtoKey next rest := by
  have hwhole : (entryGroups taken blanks next rest).whole = taken ++ blanks ++ [next] := rfl
  rw [hwhole]
  refine ⟨fun hne hkey => hne (guarded_of_protoKey hkey), fun hkey heq => ?_⟩
  refine guarded_append_ne taken hkey (of_firstInside? hin).2 rest ?_
  rw [heq]
  simp

end Match

/-- A second pass changes nothing exactly when no guarded match leaves an opening behind: neither at the
comma in front of the first character inside, nor at that character. -/
theorem guard_guard_iff (t : Text) :
    guard (guard t) = guard t ↔ ∀ g ∈ openings.found t, guarded g ≠ g.whole →
      ¬ Unguarded (',' :: (g.get 2 ++ g.after)) ∧ ¬ Unguarded (g.get 2 ++ g.after) := by
  induction t using openings.induction with
  | nil => simp
  | keep c t h ih =>
    have hguard : guard (c :: t) = c :: guard t := openings.rewrite_cons guarded h
    rw [hguard, guard_cons_eq_iff, unguarded_cons_guard, openings.found_cons h, ← ih]
    simp [not_unguarded_of_read h]
  | hit t g h ih =>
    obtain ⟨taken, middle, blanks, next, rest, hopen, hin, rfl⟩ := of_read h
    have hafter : (entryGroups taken blanks next rest).after = rest := rfl
    have hget : (entryGroups taken blanks next rest).get 2 = [next] := rfl
    rw [hafter] at ih
    rw [openings.found_of_read h, List.forall_mem_cons, guarded_ne_whole_iff hin, hget, hafter, ← ih]
    by_cases hkey : IsProtoKey next rest
    · rw [guard_guard_iff_of_protoKey hopen hin hkey]
      simp [hkey]
    · rw [guard_guard_iff_of_not_protoKey hopen hin hkey]
      simp only [hkey, not_false_eq_true, forall_const, List.singleton_append]

/-- The matches of the guard's pattern in a text. -/
def literals (t : Text) : List Groups :=
  match Pattern.ofText openingPattern with
  | .ok p => (Scan.of p none t).hits.map Hit.groups
  | .error _ => []

theorem literals_eq (t : Text) : literals t = openings.found t := by
  obtain ⟨p, hp, hfinds⟩ := openingPattern_finds
  rw [literals, hp]
  simp only [Scan.of_all hfinds, Form.found]

/-- Whether a match of the guard's pattern stands at the beginning of the text and is changed. -/
def BeginsUnguarded (t : Text) : Prop :=
  ∃ g ∈ (literals t).head?, t = g.whole ++ g.after ∧ guarded g ≠ g.whole

theorem beginsUnguarded_iff (t : Text) : BeginsUnguarded t ↔ Unguarded t := by
  rw [BeginsUnguarded, literals_eq]
  constructor
  · rintro ⟨g, hg, hsplit, hchanges⟩
    cases hfirst : openings.first? t with
    | none => rw [openings.found_of_none hfirst] at hg; cases hg
    | some hit =>
      rw [openings.found_of_some hfirst] at hg
      cases hg
      have hread := (Form.of_first? hfirst).2
      rw [← hsplit] at hread
      obtain ⟨taken, middle, blanks, next, rest, hopen, hin, heq⟩ := of_read hread
      rw [heq, guarded_ne_whole_iff hin] at hchanges
      exact ⟨taken, middle, blanks, next, rest, hopen, hin, hchanges⟩
  · rintro ⟨taken, middle, blanks, next, rest, hopen, hin, hkey⟩
    have hread := read_eq hopen hin
    refine ⟨_, ?_, openings.splits hread, (guarded_ne_whole_iff hin).mpr hkey⟩
    rw [openings.found_of_read hread]
    rfl

/-- Applying the guard to its own result changes nothing exactly when, for each match that the first pass
guarded, neither the text behind the brace begins with an unguarded opening nor does that text with the
separating comma in front. -/
theorem substitute_twice_unchanged_iff (t : Text) (ctx : Context) :
    ∃ once : Text, (guardSubstitution.substitute t ctx).result = .ok (changed t once) ∧
      ((guardSubstitution.substitute once ctx).result = .ok none ↔
        ∀ g ∈ literals t, guarded g ≠ g.whole →
          ¬ BeginsUnguarded (',' :: (g.get 2 ++ g.after)) ∧ ¬ BeginsUnguarded (g.get 2 ++ g.after)) := by
  refine ⟨guard t, by rw [acts_guard]; rfl, ?_⟩
  have hagain : (guardSubstitution.substitute (guard t) ctx).result = .ok none ↔
      guard (guard t) = guard t := by
    rw [acts_guard, changed]
    split <;> simp [*, Run.done]
  rw [hagain, guard_guard_iff, literals_eq]
  simp only [beginsUnguarded_iff]

/-- A literal whose first entry is a computed key with a literal in it needs two passes. -/
theorem substitute_twice_computed_key :
    let t := "x = \x7b[\x7ba: 1\x7d]: 2\x7d".toList
    let once := "x = \x7b__proto__: null,[\x7ba: 1\x7d]: 2\x7d".toList
    let twice := "x = \x7b__proto__: null,[\x7b__proto__: null,a: 1\x7d]: 2\x7d".toList
    (guardSubstitution.substitute t {}).result.toOption = some (some once) ∧
      (guardSubstitution.substitute once {}).result.toOption = some (some twice) := by
  decide +kernel

end BundleHardening.ObjectLiteral
