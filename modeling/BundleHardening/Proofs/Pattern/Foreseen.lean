import BundleHardening.Pattern.Basic
import BundleHardening.Proofs.Text.Replacing

/-!
# Constructs that the signs foresee

Which dialect a pattern is in is told from a list of signs.  The list foresees look-around, atomic groups and
repetitions, and references by number; the extended dialect has more to itself.  A pattern is `Foreseen` if it
is written in constructs that both dialects read alike and in those of the list.  That is told in one pass
over the text, which knows of a place in the text only whether it is in a class, and whether a repetition
sign may stand there.
-/

set_option autoImplicit false

namespace BundleHardening.Pattern

/-- Where the pass over a written pattern stands. -/
inductive Place where
  /-- Outside of classes; a repetition sign may follow, or not. -/
  | outside (repeatable : Bool)
  /-- In a class, behind so many brackets that are not closed, the first one aside. -/
  | inClass (depth : Nat)

/-- The letters behind a backslash that the extended dialect has to itself, or reads in a way of its own. -/
def ownEscapes : (inClass : Bool) → List Char
  | false => ['0', 'k', 'K', 'G', 'h', 'H', 'e']
  | true => ['0', 'k', 'K', 'G', 'h', 'H', 'e', 'b', '<', '>']

/-- How many characters belong to an escape behind its letter. -/
def escapeSize : Char → Nat
  | 'p' | 'P' => 1
  | 'x' => 2
  | 'u' => 4
  | 'U' => 8
  | _ => 0

/-- Passes what belongs to an escape behind its letter: so many characters, or a text in braces. -/
def passArgument : (size : Nat) → Text → Text
  | 0, t => t
  | _ + 1, '\x7b' :: t => (t.dropWhile (· != '\x7d')).drop 1
  | size + 1, t => t.drop (size + 1)

/-- Passes what follows a backslash. -/
def passEscape? (inClass : Bool) : Text → Option Text
  | [] => none
  | c :: t =>
    if (ownEscapes inClass).contains c || 128 ≤ c.toNat then none
    else some (passArgument (escapeSize c) t)

/-- Passes a count behind its opening brace, if both dialects read one. -/
def passCount? (t : Text) : Option Text :=
  match Regular.readBounds {} t, Extended.readBounds { rest := t, size := 0 } with
  | some (_, rest), some (_, rest') => if rest = rest' then some rest else none
  | _, _ => none

/-- Passes a group name, which both dialects must read as one, and which must be new. -/
def passName? (names : List Text) (t : Text) : Option (List Text × Text) :=
  match Regular.readName t, Extended.readName ['>'] t with
  | some (name, rest), some (_, rest') =>
    if !names.contains name && rest = rest' then some (name :: names, rest) else none
  | _, _ => none

/-- Passes the letters of a mode switch, among which none may choose another character set, or have blanks
and comments left out. -/
def passSwitch? (t : Text) : Option Text :=
  match Flags.readSwitch [] {} t with
  | some (flags, letters, _ :: rest) =>
    if flags.unicode && !letters.contains 'x' then some rest else none
  | _ => none

/-- Passes what follows an opening parenthesis, and gives the names of the groups so far. -/
def passHead? (names : List Text) : Text → Option (List Text × Text)
  | '?' :: '=' :: t => some (names, t)
  | '?' :: '!' :: t => some (names, t)
  | '?' :: '>' :: t => some (names, t)
  | '?' :: '<' :: '=' :: t => some (names, t)
  | '?' :: '<' :: '!' :: t => some (names, t)
  | '?' :: '<' :: t => passName? names t
  | '?' :: 'P' :: '<' :: t => passName? names t
  | '?' :: t => (passSwitch? t).map (names, ·)
  | t => some (names, t)

/-- Passes the sign of negation at the beginning of a class. -/
def passCaret : Text → Text
  | '^' :: t => t
  | t => t

/-- Passes a closing bracket in first place. -/
def passBracket : Text → Text
  | ']' :: t => t
  | t => t

/-- Whether a colon follows that begins no named set, written as it is or as an escape.  What the
extended dialect makes of such a class may name a set. -/
def looksNamed (t : Text) : Bool :=
  (Class.readNamed {} t).isNone &&
    match t with
    | ':' :: _ => true
    | '\\' :: t =>
      match Escape.read {} t with
      | some (.literal c, _) => c == ':'
      | _ => false
    | _ => false

/-- Passes a part of a class. -/
def passInClass? : (depth : Nat) → Text → Option (Place × Text)
  | _, [] => none
  | depth, '\\' :: t => (passEscape? true t).map (.inClass depth, ·)
  | depth, '[' :: t => if looksNamed t then none else some (.inClass (depth + 1), t)
  | 0, ']' :: t => some (.outside true, t)
  | depth + 1, ']' :: t => some (.inClass depth, t)
  | depth, '(' :: t => if Text.startsWith t ['?', '#'] then none else some (.inClass depth, t)
  | depth, _ :: t => some (.inClass depth, t)

/-- Passes a part of a pattern that is not in a class. -/
def passOutside? (names : List Text) (repeatable : Bool) : Text → Option (List Text × Place × Text)
  | [] => none
  | '\\' :: t => (passEscape? false t).map (names, .outside true, ·)
  | '[' :: t => some (names, .inClass 0, passBracket (passCaret t))
  | '(' :: t => (passHead? names t).map fun (names, t) => (names, .outside false, t)
  | '\x7b' :: t => if repeatable then (passCount? t).map (names, .outside false, ·) else none
  | c :: t => some (names, .outside !(['|', '*', '+', '?'].contains c), t)

/-- One step of the pass; `none` where a construct is not foreseen, and at the end. -/
def pass? (names : List Text) : Place → Text → Option (List Text × Place × Text)
  | .outside repeatable, t => passOutside? names repeatable t
  | .inClass depth, t => (passInClass? depth t).map (names, ·)

/-- The pass gets to the end of the text. -/
inductive Foreseen : (names : List Text) → Place → Text → Prop where
  | done {names : List Text} {place : Place} : Foreseen names place []
  | step {names names' : List Text} {place place' : Place} {t rest : Text} :
      pass? names place t = some (names', place', rest) → Foreseen names' place' rest →
        Foreseen names place t

/-- The pattern is written in constructs that both dialects read alike and in those the signs tell. -/
def isForeseen (t : Text) : Prop :=
  Foreseen [] (.outside false) t

/-! ## What is left is the end of the text -/

variable {names names' : List Text} {place place' : Place} {t rest : Text}

theorem readCount_suffix {n : Nat} (h : Regular.readCount t = some (n, rest)) : rest <:+ t := by
  simp only [Regular.readCount] at h
  split at h
  · cases h
  · cases h
    exact (List.dropWhile_suffix _).trans ((List.dropWhile_suffix _).trans (List.dropWhile_suffix _))

/-- The bounds of a repetition end with the closing brace. -/
theorem readBounds_suffix {bounds : Nat × Option Nat}
    (h : Regular.readBounds {} t = some (bounds, rest)) : '\x7d' :: rest <:+ t := by
  have hskip : ∀ t : Text, ({} : Flags).skip t = t := fun _ => rfl
  simp only [Regular.readBounds, hskip, Option.bind_eq_bind] at h
  obtain ⟨⟨least, u⟩, hleast, h⟩ := Option.bind_eq_some_iff.mp h
  refine .trans ?_ (readCount_suffix hleast)
  dsimp only at h
  split at h
  · cases h
    exact List.suffix_refl _
  · refine .trans ?_ (List.suffix_cons _ _)
    split at h
    · cases h
      exact List.suffix_refl _
    · obtain ⟨⟨most, v⟩, hmost, h⟩ := Option.bind_eq_some_iff.mp h
      refine .trans ?_ (readCount_suffix hmost)
      dsimp only at h
      split at h
      · split at h
        · cases h
          exact List.suffix_refl _
        · cases h
      · cases h
  · cases h

theorem readName_suffix {name : Text} (h : Regular.readName t = some (name, rest)) : rest <:+ t := by
  simp only [Regular.readName] at h
  split at h
  · next c rest' _ _ hdrop _ =>
    split at h
    · cases h
      exact (List.suffix_cons _ _).trans (hdrop ▸ List.dropWhile_suffix _)
    · cases h
  · cases h

/-- What a letter of a mode switch does: it ends the switch, or is followed by more of it. -/
theorem readSwitch_cons {seen letters : List Char} {f f' : Flags} {c : Char}
    (h : Flags.readSwitch seen f (c :: t) = some (f', letters, rest)) :
    (c = ':' ∨ c = ')') ∧ seen.head? ≠ some '-' ∧ f' = f ∧ letters = seen ∧ rest = c :: t ∨
      c ≠ ':' ∧ c ≠ ')' ∧ c ∉ seen ∧ ∃ f₁,
        (c = '-' ∧ f₁ = f ∨ c ≠ '-' ∧ f.switch? c (!seen.contains '-') = some f₁) ∧
          Flags.readSwitch (c :: seen) f₁ t = some (f', letters, rest) := by
  rw [Flags.readSwitch] at h
  split at h
  · next hend =>
    left
    split at h
    · cases h
    · next hminus =>
      cases h
      exact ⟨by simpa using hend, by simpa using hminus, rfl, rfl, rfl⟩
  · next hend =>
    right
    simp only [Bool.or_eq_true, beq_iff_eq, not_or] at hend
    split at h
    · cases h
    · next hnew =>
      refine ⟨hend.1, hend.2, by simpa using hnew, ?_⟩
      split at h
      · next hminus => exact ⟨f, .inl ⟨by simpa using hminus, rfl⟩, h⟩
      · next hminus =>
        split at h
        · cases h
        · next f₁ hswitch => exact ⟨f₁, .inr ⟨by simpa using hminus, hswitch⟩, h⟩

/-- A colon or a closing parenthesis ends a mode switch. -/
theorem readSwitch_end {seen letters : List Char} {f f' : Flags} {c : Char}
    (h : Flags.readSwitch seen f (c :: t) = some (f', letters, rest)) (hend : c = ':' ∨ c = ')') :
    letters = seen ∧ rest = c :: t := by
  obtain ⟨-, -, -, hletters, hrest⟩ | ⟨hcolon, hclose, -⟩ := readSwitch_cons h
  · exact ⟨hletters, hrest⟩
  · exact (hend.elim hcolon hclose).elim

/-- Behind any other letter a mode switch goes on. -/
theorem readSwitch_letter {seen letters : List Char} {f f' : Flags} {c : Char}
    (h : Flags.readSwitch seen f (c :: t) = some (f', letters, rest)) (hcolon : c ≠ ':')
    (hclose : c ≠ ')') : ∃ f₁, Flags.readSwitch (c :: seen) f₁ t = some (f', letters, rest) := by
  obtain ⟨hend, -⟩ | ⟨-, -, -, f₁, -, hmore⟩ := readSwitch_cons h
  · exact (hend.elim hcolon hclose).elim
  · exact ⟨f₁, hmore⟩

theorem readSwitch_suffix {seen letters : List Char} {f f' : Flags}
    (h : Flags.readSwitch seen f t = some (f', letters, rest)) : rest <:+ t := by
  induction t generalizing seen f with
  | nil => cases h
  | cons c t ih =>
    obtain ⟨-, -, -, -, rfl⟩ | ⟨-, -, -, _, -, hmore⟩ := readSwitch_cons h
    · exact List.suffix_refl _
    · exact (ih hmore).trans (List.suffix_cons _ _)

theorem passEscape?_suffix {inClass : Bool} (h : passEscape? inClass t = some rest) : rest <:+ t := by
  cases t with
  | nil => cases h
  | cons c t =>
    rw [passEscape?] at h
    split at h
    · cases h
    · cases h
      refine .trans ?_ (List.suffix_cons _ _)
      fun_cases passArgument (escapeSize c) t
      · exact List.suffix_refl _
      · exact (List.drop_suffix _ _).trans ((List.dropWhile_suffix _).trans (List.suffix_cons _ _))
      · exact List.drop_suffix _ _

/-- A count is one for the linear dialect, and ends with its closing brace. -/
theorem of_passCount? (h : passCount? t = some rest) :
    (∃ bounds, Regular.readBounds {} t = some (bounds, rest)) ∧
      (∃ bounds, Extended.readBounds { rest := t, size := 0 } = some (bounds, rest)) ∧
      '\x7d' :: rest <:+ t := by
  rw [passCount?] at h
  split at h
  · next hregular hextended =>
    split at h
    · next heq =>
      cases h
      cases heq
      exact ⟨⟨_, hregular⟩, ⟨_, hextended⟩, readBounds_suffix hregular⟩
    · cases h
  · cases h

/-- A name is one for both dialects, and new. -/
theorem of_passName? (h : passName? names t = some (names', rest)) : ∃ name extendedName,
    Regular.readName t = some (name, rest) ∧ Extended.readName ['>'] t = some (extendedName, rest) ∧
      names.contains name = false ∧ names' = name :: names := by
  rw [passName?] at h
  split at h
  · next hregular hextended =>
    split at h
    · next hnew =>
      cases h
      simp only [Bool.and_eq_true, Bool.not_eq_true', decide_eq_true_eq] at hnew
      obtain ⟨hnew, rfl⟩ := hnew
      exact ⟨_, _, hregular, hextended, hnew, rfl⟩
    · cases h
  · cases h

/-- A mode switch is one for the linear dialect. -/
theorem of_passSwitch? (h : passSwitch? t = some rest) : ∃ flags letters c,
    Flags.readSwitch [] {} t = some (flags, letters, c :: rest) ∧ flags.unicode = true ∧
      'x' ∉ letters := by
  rw [passSwitch?] at h
  split at h
  · next hread =>
    split at h
    · next hletters =>
      cases h
      simp only [Bool.and_eq_true, Bool.not_eq_true', List.contains_eq_mem, decide_eq_false_iff_not]
        at hletters
      exact ⟨_, _, _, hread, hletters⟩
    · cases h
  · cases h

theorem passSwitch?_suffix (h : passSwitch? t = some rest) : rest <:+ t := by
  obtain ⟨_, _, _, hread, -⟩ := of_passSwitch? h
  exact (List.suffix_cons _ _).trans (readSwitch_suffix hread)

theorem passName?_suffix (h : passName? names t = some (names', rest)) : rest <:+ t := by
  obtain ⟨_, _, hread, -⟩ := of_passName? h
  exact readName_suffix hread

theorem passHead?_suffix (h : passHead? names t = some (names', rest)) : rest <:+ t := by
  unfold passHead? at h
  split at h
  case h_6 => exact (passName?_suffix h).trans (List.suffix_append ['?', '<'] _)
  case h_7 => exact (passName?_suffix h).trans (List.suffix_append ['?', 'P', '<'] _)
  case h_8 =>
    obtain ⟨_, hswitch, heq⟩ := Option.map_eq_some_iff.mp h
    cases heq
    exact (passSwitch?_suffix hswitch).trans (List.suffix_cons _ _)
  case h_9 =>
    cases h
    exact List.suffix_refl _
  -- The signs of the list, which are passed as they stand.
  all_goals
    cases h
    first
    | exact List.suffix_append ['?', _] _
    | exact List.suffix_append ['?', '<', _] _

theorem passInClass?_suffix {depth : Nat} (h : passInClass? depth t = some (place, rest)) :
    rest <:+ t := by
  unfold passInClass? at h
  split at h
  case h_2 =>
    obtain ⟨_, hescape, heq⟩ := Option.map_eq_some_iff.mp h
    cases heq
    exact (passEscape?_suffix hescape).trans (List.suffix_cons _ _)
  all_goals
    try split at h
    all_goals
      cases h
      try exact List.suffix_cons _ _

theorem passCaret_suffix (t : Text) : passCaret t <:+ t := by
  unfold passCaret
  split
  · exact List.suffix_cons _ _
  · exact List.suffix_refl _

theorem passBracket_suffix (t : Text) : passBracket t <:+ t := by
  unfold passBracket
  split
  · exact List.suffix_cons _ _
  · exact List.suffix_refl _

theorem passOutside?_suffix {repeatable : Bool}
    (h : passOutside? names repeatable t = some (names', place, rest)) : rest <:+ t := by
  unfold passOutside? at h
  split at h
  · cases h
  · obtain ⟨_, hescape, heq⟩ := Option.map_eq_some_iff.mp h
    cases heq
    exact (passEscape?_suffix hescape).trans (List.suffix_cons _ _)
  · cases h
    exact (passBracket_suffix _).trans ((passCaret_suffix _).trans (List.suffix_cons _ _))
  · obtain ⟨_, hhead, heq⟩ := Option.map_eq_some_iff.mp h
    cases heq
    exact (passHead?_suffix hhead).trans (List.suffix_cons _ _)
  · split at h
    · obtain ⟨_, hcount, heq⟩ := Option.map_eq_some_iff.mp h
      cases heq
      exact (List.suffix_cons _ _).trans ((of_passCount? hcount).2.2.trans (List.suffix_cons _ _))
    · cases h
  · cases h
    exact List.suffix_cons _ _

theorem pass?_suffix (h : pass? names place t = some (names', place', rest)) : rest <:+ t := by
  cases place with
  | outside repeatable => exact passOutside?_suffix h
  | inClass depth =>
    obtain ⟨_, hpass, heq⟩ := Option.map_eq_some_iff.mp h
    cases heq
    exact passInClass?_suffix hpass

theorem passOutside?_char {c : Char} (hc : c ∉ ['\\', '[', '(', '\x7b']) (names : List Text)
    (repeatable : Bool) (t : Text) : passOutside? names repeatable (c :: t) =
      some (names, .outside !(['|', '*', '+', '?'].contains c), t) := by
  simp only [List.mem_cons, List.not_mem_nil, or_false, not_or] at hc
  obtain ⟨hbackslash, hbracket, hparenthesis, hbrace⟩ := hc
  rw [passOutside?] <;> assumption

theorem passOutside?_of_not_brace (hbrace : ∀ u, t ≠ '\x7b' :: u) (repeatable : Bool) :
    passOutside? names repeatable t = passOutside? names false t := by
  unfold passOutside?
  split
  case h_5 => exact absurd rfl (hbrace _)
  all_goals rfl

/-! ## What is left shows no sign either -/

theorem holdsReference_tail {c : Char} (h : holdsReference (c :: t) = false) :
    holdsReference t = false := by
  unfold holdsReference at h
  split at h
  · next heq =>
    cases heq
    exact (Bool.or_eq_false_iff.mp h).2
  · next heq =>
    cases heq
    exact h
  · next heq => cases heq

theorem holdsReference_of_suffix (hsuffix : rest <:+ t) (h : holdsReference t = false) :
    holdsReference rest = false := by
  obtain ⟨start, rfl⟩ := hsuffix
  induction start with
  | nil => exact h
  | cons c start ih => exact ih (holdsReference_tail h)

theorem needsBacktracking_of_suffix (hsuffix : rest <:+ t) (h : needsBacktracking t = false) :
    needsBacktracking rest = false := by
  simp only [needsBacktracking, Bool.or_eq_false_iff, List.any_eq_false, Text.holds_iff] at h ⊢
  exact ⟨fun sign hsign hholds => h.1 sign hsign (hholds.trans hsuffix.isInfix),
    holdsReference_of_suffix hsuffix h.2⟩

theorem not_prefix_of_unsigned (h : needsBacktracking t = false) (sign : String)
    (hsign : sign ∈ extendedSigns) : ¬ sign.toList <+: t := by
  simp only [needsBacktracking, Bool.or_eq_false_iff, List.any_eq_false, Text.holds_iff] at h
  exact fun hprefix => h.1 sign hsign hprefix.isInfix

/-- What stands at a place of a foreseen pattern that shows no sign. -/
structure Clear (names : List Text) (place : Place) (t : Text) : Prop where
  foreseen : Foreseen names place t
  unsigned : needsBacktracking t = false

namespace Clear

/-- The pass goes on from every place but the end, and what is left is clear. -/
theorem next (h : Clear names place t) (hne : t ≠ []) : ∃ names' place' rest,
    pass? names place t = some (names', place', rest) ∧ Clear names' place' rest := by
  cases h.foreseen with
  | done => exact absurd rfl hne
  | step hpass hrest =>
    exact ⟨_, _, _, hpass, hrest, needsBacktracking_of_suffix (pass?_suffix hpass) h.unsigned⟩

/-- No sign of the list stands at the place. -/
theorem not_sign (h : Clear names place t) (sign : String) (hsign : sign ∈ extendedSigns) :
    ¬ sign.toList <+: t :=
  not_prefix_of_unsigned h.unsigned sign hsign

/-- No reference by number stands at the place, zero aside. -/
theorem not_digit {c : Char} (h : Clear names place ('\\' :: c :: t)) (hzero : c ≠ '0') :
    c.isDigit = false := by
  have hunsigned := h.unsigned
  simp only [needsBacktracking, Bool.or_eq_false_iff, holdsReference, Bool.and_eq_false_iff,
    bne_eq_false_iff_eq, hzero, or_false] at hunsigned
  exact hunsigned.2.1

/-! ### Outside of classes -/

variable {repeatable : Bool} {c : Char}

theorem of_outside (h : Clear names (.outside repeatable) t) (hne : t ≠ []) : ∃ names' place rest,
    passOutside? names repeatable t = some (names', place, rest) ∧ Clear names' place rest :=
  h.next hne

theorem escape (h : Clear names (.outside repeatable) ('\\' :: t)) :
    ∃ rest, passEscape? false t = some rest ∧ Clear names (.outside true) rest := by
  obtain ⟨_, _, _, hpass, hrest⟩ := h.of_outside (List.cons_ne_nil _ _)
  obtain ⟨_, hpass, heq⟩ := Option.map_eq_some_iff.mp hpass
  cases heq
  exact ⟨_, hpass, hrest⟩

theorem bracket (h : Clear names (.outside repeatable) ('[' :: t)) :
    Clear names (.inClass 0) (passBracket (passCaret t)) := by
  obtain ⟨_, _, _, hpass, hrest⟩ := h.of_outside (List.cons_ne_nil _ _)
  cases hpass
  exact hrest

theorem parenthesis (h : Clear names (.outside repeatable) ('(' :: t)) : ∃ names' rest,
    passHead? names t = some (names', rest) ∧ Clear names' (.outside false) rest := by
  obtain ⟨_, _, _, hpass, hrest⟩ := h.of_outside (List.cons_ne_nil _ _)
  obtain ⟨_, hhead, heq⟩ := Option.map_eq_some_iff.mp hpass
  cases heq
  exact ⟨_, _, hhead, hrest⟩

theorem brace (h : Clear names (.outside repeatable) ('\x7b' :: t)) : repeatable = true ∧
    ∃ rest, passCount? t = some rest ∧ Clear names (.outside false) rest := by
  obtain ⟨_, _, _, hpass, hrest⟩ := h.of_outside (List.cons_ne_nil _ _)
  rw [passOutside?] at hpass
  split at hpass
  · next hrepeatable =>
    obtain ⟨_, hpass, heq⟩ := Option.map_eq_some_iff.mp hpass
    cases heq
    exact ⟨hrepeatable, _, hpass, hrest⟩
  · cases hpass

theorem char (h : Clear names (.outside repeatable) (c :: t)) (hc : c ∉ ['\\', '[', '(', '\x7b']) :
    Clear names (.outside !(['|', '*', '+', '?'].contains c)) t := by
  obtain ⟨_, _, _, hpass, hrest⟩ := h.of_outside (List.cons_ne_nil _ _)
  rw [passOutside?_char hc] at hpass
  cases hpass
  exact hrest

/-- Where no count begins, it does not matter whether one might. -/
theorem settle (h : Clear names (.outside repeatable) t) (hbrace : ∀ u, t ≠ '\x7b' :: u) :
    Clear names (.outside false) t := by
  refine ⟨?_, h.unsigned⟩
  cases h.foreseen with
  | done => exact .done
  | step hpass hrest =>
    refine .step ?_ hrest
    rw [pass?, ← passOutside?_of_not_brace hbrace repeatable]
    exact hpass

/-- No comment stands outside of classes. -/
theorem not_comment (h : Clear names (.outside repeatable) t) : ¬ ['(', '?', '#'] <+: t := by
  rintro ⟨u, rfl⟩
  obtain ⟨_, _, hpass, -⟩ := h.parenthesis
  cases hpass

/-! ### In a class -/

variable {depth : Nat}

theorem of_inClass (h : Clear names (.inClass depth) t) (hne : t ≠ []) :
    ∃ place rest, passInClass? depth t = some (place, rest) ∧ Clear names place rest := by
  obtain ⟨_, _, _, hpass, hrest⟩ := h.next hne
  obtain ⟨_, hpass, heq⟩ := Option.map_eq_some_iff.mp hpass
  cases heq
  exact ⟨_, _, hpass, hrest⟩

theorem escape_inClass (h : Clear names (.inClass depth) ('\\' :: t)) :
    ∃ rest, passEscape? true t = some rest ∧ Clear names (.inClass depth) rest := by
  obtain ⟨_, _, hpass, hrest⟩ := h.of_inClass (List.cons_ne_nil _ _)
  obtain ⟨_, hpass, heq⟩ := Option.map_eq_some_iff.mp hpass
  cases heq
  exact ⟨_, hpass, hrest⟩

theorem bracket_inClass (h : Clear names (.inClass depth) ('[' :: t)) :
    looksNamed t = false ∧ Clear names (.inClass (depth + 1)) t := by
  obtain ⟨_, _, hpass, hrest⟩ := h.of_inClass (List.cons_ne_nil _ _)
  rw [passInClass?] at hpass
  split at hpass
  · cases hpass
  · next hlooks =>
    cases hpass
    exact ⟨Bool.not_eq_true _ ▸ hlooks, hrest⟩

theorem close_class (h : Clear names (.inClass 0) (']' :: t)) : Clear names (.outside true) t := by
  obtain ⟨_, _, hpass, hrest⟩ := h.of_inClass (List.cons_ne_nil _ _)
  cases hpass
  exact hrest

theorem close_inClass (h : Clear names (.inClass (depth + 1)) (']' :: t)) :
    Clear names (.inClass depth) t := by
  obtain ⟨_, _, hpass, hrest⟩ := h.of_inClass (List.cons_ne_nil _ _)
  cases hpass
  exact hrest

theorem char_inClass (h : Clear names (.inClass depth) (c :: t)) (hc : c ∉ ['\\', '[', ']']) :
    Clear names (.inClass depth) t := by
  obtain ⟨_, _, hpass, hrest⟩ := h.of_inClass (List.cons_ne_nil _ _)
  simp only [List.mem_cons, List.not_mem_nil, or_false, not_or] at hc
  by_cases hparenthesis : c = '('
  · subst hparenthesis
    simp only [passInClass?] at hpass
    split at hpass
    · cases hpass
    · cases hpass
      exact hrest
  · simp only [passInClass?, hc, imp_self, implies_true, Option.some.injEq,
      Prod.mk.injEq] at hpass
    obtain ⟨rfl, rfl⟩ := hpass
    exact hrest

/-- No comment stands in a class. -/
theorem not_comment_inClass (h : Clear names (.inClass depth) t) : ¬ ['(', '?', '#'] <+: t := by
  rintro ⟨u, rfl⟩
  obtain ⟨_, _, hpass, -⟩ := h.of_inClass (List.cons_ne_nil _ _)
  cases depth <;> cases hpass

end Clear

end BundleHardening.Pattern
