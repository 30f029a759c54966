import BundleHardening.Proofs.Pattern.SharedParts

/-!
# The signs of the extended dialect

A pattern whose constructs the list of signs foresees, and that shows none of them, is read by both dialects
step by step in the same way: whatever the reader of the extended dialect has read, the one of the linear
dialect has read as well (`Extended.follows_of_readGoal`).  So of the foreseen patterns those that only the
backtracking engine compiles show a sign (`Pattern.needsBacktracking_of_refused`).

The list does not foresee every construct that the linear dialect lacks.  A reference by name shows no
sign, and is refused (`Pattern.refused_namedReference`).
-/

set_option autoImplicit false

namespace BundleHardening

/-! ## The linear reader, step by step -/

namespace Regular

/-- A place in the reading of alternatives: the alternatives read, and what has been read of the next. -/
structure Stage where
  choices : List Nested
  factors : List Factor
  reading : Reading

namespace Stage

/-- What is read from the place on. -/
def read (fuel : Nat) (x : Stage) : Option (Nested × Reading) :=
  readAlternatives fuel x.choices x.factors x.reading

/-- The reader gets from one place to the other, which is no farther from the end of the text.  With
steps enough for the text left at the one place, enough are left at the other. -/
structure LeadsTo (x y : Stage) : Prop where
  length_le : y.reading.rest.length ≤ x.reading.rest.length
  read_eq : ∀ fuel, x.reading.rest.length < fuel → ∃ fuel', y.reading.rest.length < fuel' ∧
    x.read fuel = y.read fuel'

theorem LeadsTo.refl (x : Stage) : LeadsTo x x :=
  ⟨Nat.le_refl _, fun fuel hfuel => ⟨fuel, hfuel, rfl⟩⟩

theorem LeadsTo.trans {x y z : Stage} (h : LeadsTo x y) (h' : LeadsTo y z) : LeadsTo x z := by
  refine ⟨h'.length_le.trans h.length_le, fun fuel hfuel => ?_⟩
  obtain ⟨fuel₁, hfuel₁, hread⟩ := h.read_eq fuel hfuel
  obtain ⟨fuel₂, hfuel₂, hread'⟩ := h'.read_eq fuel₁ hfuel₁
  exact ⟨fuel₂, hfuel₂, hread.trans hread'⟩

/-- One step of the reader. -/
theorem LeadsTo.of_step {x y : Stage} (hshorter : y.reading.rest.length < x.reading.rest.length)
    (hread : ∀ fuel, x.reading.rest.length ≤ fuel → x.read (fuel + 1) = y.read fuel) :
    LeadsTo x y := by
  refine ⟨Nat.le_of_lt hshorter, fun fuel hfuel => ?_⟩
  cases fuel with
  | zero => cases hfuel
  | succ fuel =>
    have hle := Nat.le_of_lt_succ hfuel
    exact ⟨fuel, Nat.lt_of_lt_of_le hshorter hle, hread fuel hle⟩

end Stage

open Stage (LeadsTo)

variable {choices : List Nested} {factors factors' : List Factor} {s s' : Reading} {c : Char}
  {t rest : Text}

theorem skip_eq (hs : s.flags.Plain) : s.skip = s := by
  rw [Reading.skip, hs.skip]
  rfl

theorem leadsTo_bar (hs : s.flags.Plain) (hrest : s.rest = '|' :: t) (choices : List Nested)
    (factors : List Factor) :
    LeadsTo ⟨choices, factors, s⟩ ⟨ofFactors factors :: choices, [], s.at_ t⟩ := by
  refine .of_step (by simp [hrest, Reading.at_]) fun fuel _ => ?_
  simp only [Stage.read, readAlternatives, skip_eq hs, hrest]

theorem leadsTo_atom (hs : s.flags.Plain) (hrest : s.rest = c :: t)
    (hc : c ∉ ['|', '(', ')', '?', '*', '+', '\x7b']) {part : Nested}
    (hatom : readAtom s = some (part, s')) (hshorter : s'.rest.length < s.rest.length) :
    LeadsTo ⟨choices, factors, s⟩ ⟨choices, .part part :: factors, s'⟩ := by
  refine .of_step hshorter fun fuel _ => ?_
  simp only [List.mem_cons, List.not_mem_nil, or_false, not_or] at hc
  simp [Stage.read, readAlternatives, skip_eq hs, hrest, hc, hatom]

theorem leadsTo_repetition (hs : s.flags.Plain) (hrepeats : Pattern.Repeats s.rest rest)
    (hread : readRepetition s factors = some (factors', s'))
    (hshorter : s'.rest.length < s.rest.length) :
    LeadsTo ⟨choices, factors, s⟩ ⟨choices, factors', s'⟩ := by
  refine .of_step hshorter fun fuel _ => ?_
  obtain ⟨c, hc, hrest⟩ | ⟨v, hrest, -⟩ := hrepeats
  · simp only [List.mem_cons, List.not_mem_nil, or_false] at hc
    rcases hc with rfl | rfl | rfl <;>
      simp [Stage.read, readAlternatives, skip_eq hs, hrest, hread]
  · simp [Stage.read, readAlternatives, skip_eq hs, hrest, hread]

theorem leadsTo_modes (hs : s.flags.Plain) (hrest : s.rest = '(' :: t)
    (hopen : readOpening s t = some (.modes s')) (hshorter : s'.rest.length < s.rest.length) :
    LeadsTo ⟨choices, factors, s⟩ ⟨choices, .modes :: factors, s'⟩ := by
  refine .of_step hshorter fun fuel _ => ?_
  simp [Stage.read, readAlternatives, skip_eq hs, hrest, hopen]

/-- At the end of the text and before a closing parenthesis the alternatives are complete. -/
theorem read_complete {x : Stage} (hs : x.reading.flags.Plain)
    (hrest : x.reading.rest = [] ∨ ∃ t, x.reading.rest = ')' :: t) {fuel : Nat} (hfuel : 0 < fuel) :
    x.read fuel = some (ofChoices (ofFactors x.factors :: x.choices), x.reading) := by
  cases fuel with
  | zero => cases hfuel
  | succ fuel =>
    obtain hrest | ⟨t, hrest⟩ := hrest <;>
      simp only [Stage.read, readAlternatives, skip_eq hs, hrest]

/-- What an opening parenthesis encloses, unless it switches modes for what follows. -/
def Opening.inside? : Opening → Option Reading
  | .group _ inside => some inside
  | .plain inside => some inside
  | .modes _ => none

theorem leadsTo_group (hs : s.flags.Plain) (hrest : s.rest = '(' :: t) {opening : Opening}
    {inside : Reading} (hopen : readOpening s t = some opening) (hinside : opening.inside? = some inside)
    (hlength : inside.rest.length ≤ t.length) {x : Stage} (hbody : LeadsTo ⟨[], [], inside⟩ x)
    (hx : x.reading.flags.Plain) (hclose : x.reading.rest = ')' :: rest) (choices : List Nested)
    (factors : List Factor) : ∃ part, LeadsTo ⟨choices, factors, s⟩
      ⟨choices, .part part :: factors, { x.reading with rest := rest, flags := s.flags }⟩ := by
  have hshorter : rest.length < s.rest.length := by
    have hle := hbody.length_le
    simp only [hclose, hrest, List.length_cons] at hle ⊢
    omega
  have hread : ∀ fuel, s.rest.length ≤ fuel → readAlternatives fuel [] [] inside =
      some (ofChoices (ofFactors x.factors :: x.choices), x.reading) := by
    intro fuel hfuel
    obtain ⟨fuel', hfuel', hread⟩ := hbody.read_eq fuel (by
      simp only [hrest, List.length_cons] at hfuel
      exact Nat.lt_of_le_of_lt hlength hfuel)
    exact hread.trans (read_complete hx (.inr ⟨_, hclose⟩) (Nat.zero_lt_of_lt hfuel'))
  generalize ofChoices (ofFactors x.factors :: x.choices) = body at hread
  cases opening with
  | modes after => cases hinside
  | group index inside =>
    cases hinside
    refine ⟨body.around (group index body.pattern), .of_step hshorter fun fuel hfuel => ?_⟩
    simp [Stage.read, readAlternatives, skip_eq hs, hrest, hopen, hread fuel hfuel, hclose]
  | plain inside =>
    cases hinside
    refine ⟨body.around body.pattern, .of_step hshorter fun fuel hfuel => ?_⟩
    simp [Stage.read, readAlternatives, skip_eq hs, hrest, hopen, hread fuel hfuel, hclose]

end Regular

/-! ## Both readers side by side -/

namespace Extended

open Pattern (Clear)
open Regular (Stage Factor Nested)
open Regular.Stage (LeadsTo)

/-- The end of the text, or a closing parenthesis: alternatives end here. -/
def EndsAlternatives (t : Text) : Prop :=
  t = [] ∨ ∃ u, t = ')' :: u

/-- The end of the text, a closing parenthesis or a bar: a sequence ends here. -/
def EndsSequence (t : Text) : Prop :=
  EndsAlternatives t ∨ ∃ u, t = '|' :: u

/-- Only a part can be repeated; where the extended dialect has nothing to repeat, neither has the linear
one. -/
def MayRepeat (repeatable : Bool) (factor : Factor) (e : Extended) : Prop :=
  if repeatable then ∃ part, factor = .part part else isRepeatable e = false

/-- What the linear reader has read when the extended one has read the part `e` and stands at `after`. -/
def ReadsPart (choices : List Nested) (factors : List Factor) (s : Regular.Reading) (e : Extended)
    (after : Reading) : Prop :=
  ∃ factor s' repeatable, LeadsTo ⟨choices, factors, s⟩ ⟨choices, factor :: factors, s'⟩ ∧
    Abreast repeatable after s' ∧ after.rest.length < s.rest.length ∧ MayRepeat repeatable factor e

/-- What the linear reader does while the extended one reads what the goal asks for, from `r` to `after`. -/
def Follows : Goal → (e : Extended) → (r after : Reading) → Prop
  | .alternatives _, _, r, after => ∀ s, Abreast false r s → ∀ choices, ∃ x,
      LeadsTo ⟨choices, [], s⟩ x ∧ Abreast false after x.reading ∧ EndsAlternatives after.rest
  | .sequence _, _, r, after => ∀ s, Abreast false r s → ∀ choices factors, ∃ factors' s',
      LeadsTo ⟨choices, factors, s⟩ ⟨choices, factors', s'⟩ ∧ Abreast false after s' ∧
        EndsSequence after.rest
  | .part, _, r, after => ∀ s, Abreast false r s → ∀ choices factors,
      after = r ∧ EndsSequence r.rest ∨ after.rest.length < r.rest.length ∧ ∃ factors' s',
        LeadsTo ⟨choices, factors, s⟩ ⟨choices, factors', s'⟩ ∧ Abreast false after s'
  | .parenthesis, e, r, after => ∀ s, Abreast false (r.at_ ('(' :: r.rest)) s →
      ∀ choices factors, ReadsPart choices factors s e after
  | .conditional, _, _, _ => True

variable {choices : List Nested} {factors : List Factor} {factor : Factor} {r after : Reading}
  {s : Regular.Reading} {repeatable : Bool} {e e' : Extended} {c : Char} {t rest : Text}

theorem skip?_abreast (h : Abreast repeatable r s) : r.skip? = some r :=
  skip?_eq_some h.verbose h.clear.not_comment

/-- A repetition sign behind a part is read by both readers, and so is its absence. -/
theorem follows_repetition (h : Abreast repeatable r s) (hfactor : MayRepeat repeatable factor e)
    (hread : readRepetition r e = some (e', after)) : ∃ factors' s',
      LeadsTo ⟨choices, factor :: factors, s⟩ ⟨choices, factors', s'⟩ ∧ Abreast false after s' ∧
        after.rest.length ≤ r.rest.length := by
  obtain ⟨hnone, rfl⟩ | ⟨rest, hrepeats, hsome, rfl⟩ :=
    readRepetition_shared h.verbose h.clear hread
  · have hbrace : ∀ u, after.rest ≠ '\x7b' :: u := by
      intro u hu
      have hclear := h.clear
      rw [hu] at hclear
      obtain ⟨-, rest, hcount, -⟩ := hclear.brace
      exact hnone rest (.inr ⟨u, hu, hcount⟩)
    exact ⟨_, s, .refl _, ⟨h.rest, h.verbose, h.plain, h.clear.settle hbrace⟩, Nat.le_refl _⟩
  · cases repeatable with
    | false => exact absurd hsome (by simp [show isRepeatable e = false from hfactor])
    | true =>
      obtain ⟨part, rfl⟩ : ∃ part, factor = .part part := hfactor
      have hshorter : (Pattern.passLazy rest).length < r.rest.length :=
        Nat.lt_of_le_of_lt (Pattern.passLazy_suffix rest).length_le (Pattern.Repeats.length_lt hrepeats)
      have hrepeats' : Pattern.Repeats s.rest rest := h.rest ▸ hrepeats
      obtain ⟨part', hpart⟩ := Regular.readRepetition_shared h.plain hrepeats' part factors
      refine ⟨_, _, Regular.leadsTo_repetition h.plain hrepeats' hpart (h.rest ▸ hshorter), ?_,
        Nat.le_of_lt hshorter⟩
      exact ⟨rfl, h.verbose, h.plain, (h.clear.repeats hrepeats).lazy⟩

theorem readsPart_of_atom (h : Abreast false r s) (hrest : r.rest = c :: t)
    (hc : c ∉ ['|', '(', ')', '?', '*', '+', '\x7b']) (part : Nested)
    (hatom : Regular.readAtom s = some (part, s.at_ rest)) (hlength : rest.length ≤ t.length)
    (hclear : Clear s.names (.outside true) rest) :
    ReadsPart choices factors s e (r.at_ rest) := by
  have hrest' : s.rest = c :: t := h.rest.trans hrest
  have hshorter : rest.length < s.rest.length := by
    rw [hrest']
    exact Nat.lt_succ_of_le hlength
  exact ⟨.part part, s.at_ rest, true, Regular.leadsTo_atom h.plain hrest' hc hatom hshorter,
    ⟨rfl, h.verbose, h.plain, hclear⟩, hshorter, part, rfl⟩

/-- A backslash begins an escape in both dialects. -/
theorem readsPart_of_escape (h : Abreast false r s) (hrest : r.rest = '\\' :: t) {escaped : Escaped}
    (hescape : readEscape r false t = some (escaped, after)) (he : ofEscaped? after escaped = some e) :
    ReadsPart choices factors s e after := by
  have hclear := h.clear
  rw [hrest] at hclear
  obtain ⟨rest, hpass, hbehind⟩ := hclear.escape
  obtain ⟨rfl, hmatches⟩ := Escape.readEscape_shared hpass (fun c u ht => by
    subst ht
    exact hclear.not_digit (by rintro rfl; simp [Pattern.passEscape?, Pattern.ownEscapes] at hpass))
    hescape
  obtain ⟨escape, hread⟩ := hmatches.exists_read h.plain he
  refine readsPart_of_atom h hrest (by decide) ⟨Regular.ofEscape s.flags escape, 0⟩ ?_
    (Pattern.passEscape?_suffix hpass).length_le hbehind
  simp only [Regular.readAtom, h.rest, hrest, hread, Option.map_some]

/-- An opening bracket begins a class in both dialects. -/
theorem readsPart_of_class (h : Abreast false r s) (hrest : r.rest = '[' :: t)
    (hclass : readClass r t = some (e, after)) : ReadsPart choices factors s e after := by
  have hclear := h.clear
  rw [hrest] at hclear
  obtain ⟨hafter, hsuffix, hbehind, set, hread⟩ := readClass_shared h.plain h.verbose hclear hclass
  rw [hafter]
  refine readsPart_of_atom h hrest (by decide) ⟨.set set, 1⟩ ?_ hsuffix.length_le hbehind
  simp only [Regular.readAtom, h.rest, hrest, hread, Option.map_some]

theorem readAtom_char (hs : s.flags.Plain) (hrest : s.rest = c :: t) (hbackslash : c ≠ '\\')
    (hbracket : c ≠ '[') : ∃ part, Regular.readAtom s = some (part, s.at_ t) := by
  unfold Regular.readAtom
  rw [hrest]
  split
  · next heq => cases heq
  · next heq =>
    cases heq
    exact absurd rfl hbackslash
  · next heq =>
    cases heq
    exact absurd rfl hbracket
  · next heq =>
    cases heq
    obtain ⟨set, hset⟩ := hs.dot
    exact ⟨_, by rw [hset, Option.map_some]⟩
  all_goals
    next heq =>
      cases heq
      exact ⟨_, rfl⟩

/-- Other characters stand for themselves, or for a condition, in both dialects. -/
theorem readsPart_of_char (h : Abreast false r s) (hrest : r.rest = c :: t)
    (hc : c ∉ ['\\', '[', '(', ')', '|', '?', '*', '+']) :
    ReadsPart choices factors s e (r.at_ t) := by
  have hclear := h.clear
  rw [hrest] at hclear
  have hbrace : c ≠ '\x7b' := by
    rintro rfl
    cases hclear.brace.1
  simp only [List.mem_cons, List.not_mem_nil, or_false, not_or] at hc
  obtain ⟨part, hatom⟩ := readAtom_char h.plain (h.rest.trans hrest) hc.1 hc.2.1
  have hbehind := hclear.char (by simp [hc, hbrace])
  rw [show ['|', '*', '+', '?'].contains c = false by simp [hc]] at hbehind
  exact readsPart_of_atom h hrest (by simp [hc, hbrace]) part hatom (Nat.le_refl _) hbehind

/-- Behind a closing parenthesis there is something to repeat. -/
theorem clear_close (h : Abreast repeatable r s) (hclose : r.rest = ')' :: rest) :
    Clear s.names (.outside true) rest := by
  have hclear := h.clear
  rw [hclose] at hclear
  exact hclear.char (by decide)

/-- What a parenthesis encloses is read by both readers up to the parenthesis that closes it. -/
theorem readsPart_of_group (behind : Reading) {inside' : Regular.Reading} {opening : Regular.Opening}
    {x : Stage} {flags : Flags} (hs : s.flags.Plain) (hrest : s.rest = '(' :: t)
    (hopen : Regular.readOpening s t = some opening) (hinside : opening.inside? = some inside')
    (hlength : inside'.rest.length ≤ t.length) (hbody : LeadsTo ⟨[], [], inside'⟩ x)
    (hx : Abreast false behind x.reading) (hclose : behind.rest = ')' :: rest)
    (hflags : flags.verbose = false) :
    ReadsPart choices factors s e { behind with rest := rest, flags := flags } := by
  have hclose' : x.reading.rest = ')' :: rest := hx.rest.trans hclose
  obtain ⟨part, hpart⟩ := Regular.leadsTo_group hs hrest hopen hinside hlength hbody hx.plain hclose'
    choices factors
  have hshorter : rest.length < s.rest.length := by
    have hle := hbody.length_le
    simp only [hclose', hrest, List.length_cons] at hle ⊢
    omega
  have hclear := clear_close hx hclose
  exact ⟨_, _, true, hpart, ⟨rfl, hflags, hs, hclear⟩, hshorter, part, rfl⟩

theorem readClose_eq_some (h : Abreast repeatable r s) (hread : readClose r = some after) :
    ∃ rest, r.rest = ')' :: rest ∧ after = r.at_ rest := by
  simp only [readClose, skip?_abreast h, Option.bind_eq_bind, Option.bind_some] at hread
  split at hread
  · next rest hrest =>
    cases hread
    exact ⟨rest, hrest, rfl⟩
  · cases hread

theorem readBareClose_eq_some (hread : readBareClose r = some after) :
    ∃ rest, r.rest = ')' :: rest ∧ after = r.at_ rest := by
  unfold readBareClose at hread
  split at hread
  · next rest hrest =>
    cases hread
    exact ⟨rest, hrest, rfl⟩
  · cases hread

/-- The repetition sign behind a part belongs to it. -/
theorem follows_of_readsPart {behind : Reading} (hpart : ReadsPart choices factors s e behind)
    (hread : (behind.skip?.bind fun r => readRepetition r e) = some (e', after)) : ∃ factors' s',
      LeadsTo ⟨choices, factors, s⟩ ⟨choices, factors', s'⟩ ∧ Abreast false after s' ∧
        after.rest.length < s.rest.length := by
  obtain ⟨factor, s₁, repeatable, hleads, hs₁, hshorter, hrepeat⟩ := hpart
  rw [skip?_abreast hs₁, Option.bind_some] at hread
  obtain ⟨factors', s', hleads', hs', hlength⟩ := follows_repetition hs₁ hrepeat hread
  exact ⟨factors', s', hleads.trans hleads', hs', Nat.lt_of_le_of_lt hlength hshorter⟩

/-- Where nothing has been read there is nothing to repeat. -/
theorem not_repeats_of_empty (h : Abreast repeatable r s)
    (hread : readRepetition r empty = some (e, after)) :
    after = r ∧ ∀ rest, ¬ Pattern.Repeats r.rest rest := by
  obtain ⟨hnone, hafter⟩ | ⟨_, _, hsome, _⟩ := readRepetition_shared h.verbose h.clear hread
  · exact ⟨hafter, hnone⟩
  · cases hsome

section Steps

variable {fuel depth : Nat}
  (ih : ∀ depth goal r e after, readGoal fuel depth goal r = some (e, after) → Follows goal e r after)

include ih

theorem follows_parenthesis (h : readGoal (fuel + 1) depth .parenthesis r = some (e, after)) :
    Follows .parenthesis e r after := by
  intro s hs choices factors
  simp only [readGoal, Option.bind_eq_bind] at h
  split at h
  · cases h
  · obtain ⟨opening, hopening, h⟩ := Option.bind_eq_some_iff.mp h
    obtain ⟨opening', hopen, halike⟩ :=
      readOpening_shared (r := r.at_ ('(' :: r.rest)) (t := r.rest) hs rfl hopening
    cases halike with
    | group hinside hsuffix =>
      obtain ⟨⟨body, behind⟩, hbody, h⟩ := Option.bind_eq_some_iff.mp h
      obtain ⟨closed, hclosed, heq⟩ := Option.bind_eq_some_iff.mp h
      cases heq
      obtain ⟨x, hleads, hx, -⟩ := ih _ _ _ _ _ hbody _ hinside []
      obtain ⟨rest, hclose, rfl⟩ := readClose_eq_some hx hclosed
      exact readsPart_of_group _ hs.plain hs.rest hopen rfl (hinside.rest ▸ hsuffix.length_le) hleads hx
        hclose hx.verbose
    | plain hinside hsuffix =>
      obtain ⟨⟨body, behind⟩, hbody, h⟩ := Option.bind_eq_some_iff.mp h
      obtain ⟨closed, hclosed, heq⟩ := Option.bind_eq_some_iff.mp h
      cases heq
      obtain ⟨x, hleads, hx, -⟩ := ih _ _ _ _ _ hbody _ hinside []
      obtain ⟨rest, hclose, rfl⟩ := readBareClose_eq_some hclosed
      exact readsPart_of_group behind hs.plain hs.rest hopen rfl
        (hinside.rest ▸ hsuffix.length_le) hleads hx hclose hs.verbose
    | modes hafter hsuffix =>
      cases h
      have hshorter : after.rest.length < s.rest.length := by
        rw [hs.rest]
        exact Nat.lt_succ_of_le hsuffix.length_le
      exact ⟨.modes, _, false, Regular.leadsTo_modes hs.plain hs.rest hopen (hafter.rest ▸ hshorter),
        hafter, hshorter, rfl⟩

theorem follows_part (h : readGoal (fuel + 1) depth .part r = some (e, after)) :
    Follows .part e r after := by
  intro s hs choices factors
  have hpart {e' : Extended} {behind : Reading} (hpart : ReadsPart choices factors s e' behind)
      (hread : (behind.skip?.bind fun r => readRepetition r e') = some (e, after)) :
      after.rest.length < r.rest.length ∧ ∃ factors' s',
        LeadsTo ⟨choices, factors, s⟩ ⟨choices, factors', s'⟩ ∧ Abreast false after s' := by
    obtain ⟨factors', s', hleads, hs', hshorter⟩ := follows_of_readsPart hpart hread
    exact ⟨hs.rest ▸ hshorter, factors', s', hleads, hs'⟩
  simp only [readGoal, skip?_abreast hs, Option.bind_eq_bind, Option.bind_some] at h
  split at h
  · next hrest =>
    exact .inl ⟨(not_repeats_of_empty hs h).1, .inl (.inl hrest)⟩
  · next t hrest =>
    obtain ⟨⟨inner, behind⟩, hinner, hread⟩ := Option.bind_eq_some_iff.mp h
    have hopen : Abreast false (r.at_ ('(' :: t)) s := by
      rw [Reading.at_, ← hrest]
      exact hs
    exact .inr (hpart (ih _ _ _ _ _ hinner s hopen choices factors) hread)
  · next t hrest =>
    obtain ⟨⟨inner, behind⟩, hinner, hread⟩ := Option.bind_eq_some_iff.mp h
    obtain ⟨⟨escaped, behind⟩, hescape, hinner⟩ := Option.bind_eq_some_iff.mp hinner
    obtain ⟨e', he, heq⟩ := Option.map_eq_some_iff.mp hinner
    cases heq
    exact .inr (hpart (readsPart_of_escape hs hrest hescape he) hread)
  · next t hrest =>
    obtain ⟨⟨inner, behind⟩, hinner, hread⟩ := Option.bind_eq_some_iff.mp h
    exact .inr (hpart (readsPart_of_class hs hrest hinner) hread)
  · next t hrest => exact .inr (hpart (readsPart_of_char hs hrest (by decide)) h)
  · next t hrest => exact .inr (hpart (readsPart_of_char hs hrest (by decide)) h)
  · next t hrest => exact .inr (hpart (readsPart_of_char hs hrest (by decide)) h)
  · next c t hopen hbackslash hbracket _ _ _ hrest =>
    split at h
    · next hsign =>
      obtain ⟨hafter, hnone⟩ := not_repeats_of_empty hs h
      refine .inl ⟨hafter, ?_⟩
      simp only [Bool.or_eq_true, beq_iff_eq] at hsign
      obtain (((rfl | rfl) | rfl) | rfl) | rfl := hsign
      · exact absurd (.inl ⟨_, by decide, hrest⟩) (hnone t)
      · exact absurd (.inl ⟨_, by decide, hrest⟩) (hnone t)
      · exact absurd (.inl ⟨_, by decide, hrest⟩) (hnone t)
      · exact .inr ⟨t, hrest⟩
      · exact .inl (.inr ⟨t, hrest⟩)
    · next hsign =>
      have hc : c ∉ ['\\', '[', '(', ')', '|', '?', '*', '+'] := by
        simp only [Bool.or_eq_true, beq_iff_eq, not_or] at hsign
        simp only [List.mem_cons, List.not_mem_nil, or_false, not_or]
        exact ⟨hbackslash, hbracket, hopen, hsign.2, hsign.1.2, hsign.1.1.2, hsign.1.1.1.2,
          hsign.1.1.1.1⟩
      exact .inr (hpart (readsPart_of_char hs hrest hc) h)

theorem follows_sequence {parts : List Extended}
    (h : readGoal (fuel + 1) depth (.sequence parts) r = some (e, after)) :
    Follows (.sequence parts) e r after := by
  intro s hs choices factors
  simp only [readGoal] at h
  split at h
  · next hempty =>
    cases h
    exact ⟨factors, s, .refl _, hs, .inl (.inl (List.isEmpty_iff.mp hempty))⟩
  · obtain ⟨⟨part, behind⟩, hpart, h⟩ := Option.bind_eq_some_iff.mp h
    obtain ⟨rfl, hend⟩ | ⟨hshorter, factors', s', hleads, hs'⟩ :=
      ih _ _ _ _ _ hpart s hs choices factors
    · simp only [beq_self_eq_true, if_true] at h
      cases h
      exact ⟨factors, s, .refl _, hs, hend⟩
    · rw [if_neg (by simpa using Nat.ne_of_lt hshorter)] at h
      obtain ⟨factors'', s'', hleads', hs'', hend⟩ := ih _ _ _ _ _ h s' hs' choices factors'
      exact ⟨factors'', s'', hleads.trans hleads', hs'', hend⟩

theorem follows_alternatives {before : List Extended}
    (h : readGoal (fuel + 1) depth (.alternatives before) r = some (e, after)) :
    Follows (.alternatives before) e r after := by
  intro s hs choices
  simp only [readGoal, Option.bind_eq_bind] at h
  obtain ⟨⟨choice, behind⟩, hchoice, hread⟩ := Option.bind_eq_some_iff.mp h
  obtain ⟨factors', s', hleads, hs', hend⟩ := ih _ _ _ _ _ hchoice s hs choices []
  simp only [skip?_abreast hs', Option.bind_some] at hread
  obtain hend | ⟨t, hbar⟩ := hend
  · have hafter : after = behind := by
      split at hread
      · next t _ hbar =>
        obtain hempty | ⟨_, hclose⟩ := hend
        · cases hempty.symm.trans hbar
        · cases hclose.symm.trans hbar
      · split at hread <;> cases hread
        rfl
      · cases hread
        rfl
    subst hafter
    exact ⟨_, hleads, hs', hend⟩
  · simp only [hbar] at hread
    have hclear := hs'.clear
    rw [hbar] at hclear
    have hnext : Abreast false (behind.at_ t) (s'.at_ t) :=
      ⟨rfl, hs'.verbose, hs'.plain, hclear.sign (by decide)⟩
    obtain ⟨x, hleads', hx, hend⟩ :=
      ih _ _ _ _ _ hread _ hnext (Regular.ofFactors factors' :: choices)
    have hstep := Regular.leadsTo_bar hs'.plain (hs'.rest.trans hbar) choices factors'
    exact ⟨x, (hleads.trans hstep).trans hleads', hx, hend⟩

end Steps

/-- The linear reader follows the extended one through every clear pattern. -/
theorem follows_of_readGoal {fuel depth : Nat} {goal : Goal}
    (h : readGoal fuel depth goal r = some (e, after)) : Follows goal e r after := by
  induction fuel generalizing depth goal r e after with
  | zero => cases goal <;> cases h
  | succ fuel ih =>
    have ih depth goal r e after (h : readGoal fuel depth goal r = some (e, after)) :
        Follows goal e r after := ih h
    cases goal with
    | alternatives choices => exact follows_alternatives ih h
    | sequence parts => exact follows_sequence ih h
    | part => exact follows_part ih h
    | parenthesis => exact follows_parenthesis ih h
    | conditional => exact trivial

/-- A clear pattern of the extended dialect is read to its end by the linear reader. -/
theorem exists_read_linear {read : Extended × Nat × List Nat} (h : ofText? t = some read)
    (hclear : Clear [] (.outside false) t) : ∃ whole s,
      Regular.readAlternatives (2 * t.length + 2) [] [] { rest := t } = some (whole, s) ∧
        s.rest = [] := by
  obtain ⟨⟨e, after⟩, hread, h⟩ := Option.bind_eq_some_iff.mp h
  have hend : after.rest = [] := by
    by_contra hend
    simp [hend] at h
  have hstart : Abreast false { rest := t, size := Text.byteSize t } { rest := t } :=
    ⟨rfl, rfl, ⟨rfl, rfl⟩, hclear⟩
  obtain ⟨x, hleads, hx, -⟩ := follows_of_readGoal hread _ hstart []
  have hfuel : t.length < 2 * t.length + 2 := by omega
  obtain ⟨fuel, hfuel, hsame⟩ := hleads.read_eq (2 * t.length + 2) hfuel
  have hend' : x.reading.rest = [] := hx.rest.trans hend
  have hread := hsame.trans (Regular.read_complete hx.plain (.inl hend') (Nat.zero_lt_of_lt hfuel))
  exact ⟨_, _, hread, hend'⟩

end Extended

/-- The linear reader gets to the end of the text, but refuses what it has read: it nests too deep, or
takes too much room. -/
def Regular.Oversized (t : Text) : Prop :=
  ∃ whole s, readAlternatives (2 * t.length + 2) [] [] { rest := t } = some (whole, s) ∧
    s.rest = [] ∧ (maxDepth < whole.depth ∨ whole.pattern.fits = false)

namespace Pattern

variable {t : Text} {p : Pattern} {e : PatternError}

theorem exists_eq_ok {x : Except PatternError Pattern} (h : x.isOk = true) : ∃ p, x = .ok p := by
  cases x with
  | ok p => exact ⟨p, rfl⟩
  | error e => cases h

theorem extended_of_backtracking? (h : backtracking? t = .ok p) :
    ∃ read, Extended.ofText? t = some read := by
  cases hread : Extended.ofText? t with
  | none => simp [backtracking?, hread] at h
  | some read => exact ⟨read, rfl⟩

theorem regular_of_linear? (h : linear? t = .error e) : Regular.ofText? t = none := by
  cases hread : Regular.ofText? t with
  | none => rfl
  | some read => simp [linear?, hread] at h

end Pattern

end BundleHardening
