import BundleHardening.Pattern.Scan

/-!
# Searches that are aborted

A pattern that is matched in one pass is never aborted, and with it no pattern of the linear dialect
(`Scan.aborted_of_linear`).

Matching by trial is aborted when it returns too often to a state saved before.  A counted repetition
of a choice whose first alternative fails returns once in each round, however short the text is, so
the number of rounds alone can exceed the limit (`Trial.search_rounds`).
-/

set_option autoImplicit false

namespace BundleHardening

/-! ## Matching in one pass -/

theorem Pattern.find_ofRegular_ne_aborted (written : Text) (engine : Engine) (r : Regular)
    (start : Cursor) : (ofRegular written engine r).find start ≠ .aborted := by
  simp only [find, ofRegular]
  cases Search.run (Node.ofPattern r) false start with
  | none => exact fun h => by cases h
  | some marks =>
    dsimp only
    rw [foundOf]
    split <;> exact fun h => by cases h

/-- A scan is aborted only where a search is. -/
theorem Scan.aborted_collect {p : Pattern} (h : ∀ start, p.find start ≠ .aborted) (ahead : Bool) :
    ∀ (fuel : Nat) (limit : Option Nat) (from_ : Option Cursor) (cut : Cursor) (taken : Option Nat)
      (hits : List Hit), (collect p ahead fuel limit from_ cut taken hits).aborted = false := by
  intro fuel
  induction fuel with
  | zero => intro limit from_ cut taken hits; rw [collect]
  | succ fuel ih =>
    intro limit from_ cut taken hits
    cases from_ with
    | none => rw [collect]; exact Nat.succ_ne_zero fuel
    | some start =>
      rw [collect]
      split
      · rfl
      · split
        · rfl
        · next habort => exact absurd habort (h start)
        · dsimp only
          split
          · exact ih _ _ _ _ _
          · split
            · rfl
            · exact ih _ _ _ _ _

namespace Pattern

/-- A pattern of the linear dialect is matched in one pass. -/
theorem exists_of_linear? {written : Text} {p : Pattern} (h : linear? written = .ok p) :
    ∃ r, p = ofRegular written .linear r := by
  rw [linear?] at h
  split at h
  · next r _ => exact ⟨r, (Except.ok.inj h).symm⟩
  · cases h

/-- Reading a pattern of the extended dialect says so. -/
theorem engine_of_backtracking? {written : Text} {p : Pattern} (h : backtracking? written = .ok p) :
    p.engine = .backtracking := by
  rw [backtracking?] at h
  split at h
  · cases h
  · split at h
    · split at h <;> cases h
      rfl
    · split at h <;> cases h
      rfl

/-- A pattern beyond the matcher for regular ones is matched by trial. -/
theorem ofText_of_code {written : Text} {e : Extended} {groups : Nat} {refs : List Nat} {code : Code}
    {registers : Nat} (hsigns : needsBacktracking written = true)
    (hread : Extended.ofText? written = some (e, groups, refs)) (hhard : (e.shape refs).hard = true)
    (hcode : e.code? refs true 0 = (some code, registers)) :
    ofText written = .ok ⟨written, .backtracking, groups, .trials code registers⟩ := by
  simp only [ofText, hsigns, if_true, backtracking?, hread, hhard, hcode]

/-- The pattern is read from a text in one of the two dialects. -/
def IsRead (p : Pattern) : Prop :=
  ∃ written, linear? written = .ok p ∨ backtracking? written = .ok p

theorem IsRead.of_ofText {written : Text} {p : Pattern} (h : ofText written = .ok p) : p.IsRead := by
  rw [ofText] at h
  split at h
  · exact ⟨written, Or.inr h⟩
  · exact ⟨written, Or.inl h⟩

theorem IsRead.of_literal {text : Text} {p : Pattern} (h : literal text = .ok p) : p.IsRead :=
  ⟨text.escape, Or.inl h⟩

end Pattern

/-- The scan of a pattern of the linear dialect comes to its end. -/
theorem Scan.aborted_of_linear {p : Pattern} (hread : p.IsRead) (hlinear : p.engine = .linear)
    (limit : Option Nat) (t : Text) : (Scan.of p limit t).aborted = false := by
  obtain ⟨written, h | h⟩ := hread
  · obtain ⟨r, rfl⟩ := Pattern.exists_of_linear? h
    exact aborted_collect (Pattern.find_ofRegular_ne_aborted written .linear r) ..
  · rw [Pattern.engine_of_backtracking? h] at hlinear
    cases hlinear

/-! ## Matching by trial -/

namespace Trial

/-- A run without return comes to the ending, unless it is cut off first. -/
def Ends (start : Nat) (t : Trial) (saved : List Trial) (depth : Nat) (e : Ending) : Prop :=
  ∀ fuel, attempt start fuel t saved depth = .overflow ∨ attempt start fuel t saved depth = e

section Ends

variable {start depth : Nat} {task : Task} {rest : List Task} {here : Cursor}
  {registers : Registers} {saved : List Trial} {e : Ending} {t later : Trial}

theorem Ends.next (hstep : step start depth task rest here registers = .next t)
    (h : Ends start t saved depth e) :
    Ends start ⟨task :: rest, here, registers⟩ saved depth e := by
  intro fuel
  cases fuel with
  | zero => exact Or.inl rfl
  | succ fuel =>
    simp only [attempt, hstep]
    exact h fuel

theorem Ends.split (hstep : step start depth task rest here registers = .split t later)
    (h : Ends start t (later :: saved) (depth + 1) e) :
    Ends start ⟨task :: rest, here, registers⟩ saved depth e := by
  intro fuel
  cases fuel with
  | zero => exact Or.inl rfl
  | succ fuel =>
    simp only [attempt, hstep]
    split
    · exact Or.inl rfl
    · exact h fuel

theorem Ends.fail (hstep : step start depth task rest here registers = .fail) :
    Ends start ⟨task :: rest, here, registers⟩ saved depth (.failed saved depth) := by
  intro fuel
  cases fuel with
  | zero => exact Or.inl rfl
  | succ fuel => exact Or.inr (by simp only [attempt, hstep])

/-- A run that fails goes on with the state saved last, and takes one return for it. -/
theorem retry_of_ends {fuel returns depth' : Nat} {t' : Trial} {saved' : List Trial}
    (hends : Ends start t saved depth (.failed (t' :: saved') depth'))
    (h : retry start fuel returns t' saved' (depth' - 1) = .aborted) :
    retry start fuel (returns + 1) t saved depth = .aborted := by
  rw [retry]
  rcases hends fuel with hend | hend
  · simp only [hend]
  · simp only [hend, h]

end Ends

theorem round_putRound {registers : Registers} {register : Nat}
    (h : register < registers.rounds.length) (count : Nat) (position : Option Nat) :
    (registers.putRound register count position).round register = (count, position) := by
  simp [Registers.putRound, Registers.round, h]

/-- A choice that looks for one character ahead, and then for another. -/
def lookTwice (first second : Class) : Code :=
  .choice (.around 0 (.one first)) (.around 0 (.one second))

section Rounds

variable {first second : Class} {x : Char} {more : Text} {start fuel register rounds count : Nat}
  {last : Option Nat} {greedy : Bool} {rest : List Task} {here : Cursor} {registers : Registers}

/-- Within a counted repetition of a choice, at its second alternative. -/
def within (second : Class) (register rounds : Nat) (greedy : Bool) (body : Code) (rest : List Task)
    (here : Cursor) (registers : Registers) : Trial :=
  ⟨.run (.around 0 (.one second)) :: .count register rounds (some rounds) greedy body :: rest, here,
    registers⟩

/-- A round that is still to come begins. -/
theorem step_count {depth : Nat} {body : Code} (hround : registers.round register = (count, last))
    (hcount : count < rounds) :
    step start depth (.count register rounds (some rounds) greedy body) rest here registers =
      .next ⟨.run body :: .count register rounds (some rounds) greedy body :: rest, here,
        registers.putRound register (count + 1) last⟩ := by
  have hmore : (some rounds == some count) = false := by simpa using Nat.ne_of_gt hcount
  simp only [step, hround, hmore, hcount, Bool.false_eq_true, if_false, if_true]

/-- From the second alternative of one round to that of the next: the first alternative of the next round
fails, and nothing else is left saved. -/
theorem ends_within (hrest : here.rest = x :: more) (hfirst : first.contains x = false)
    (hsecond : second.contains x = true) (hround : registers.round register = (count, last))
    (hcount : count < rounds) (saved : List Trial) (depth : Nat) :
    Ends start (within second register rounds greedy (lookTwice first second) rest here registers)
      saved depth
      (.failed (within second register rounds greedy (lookTwice first second) rest here
        (registers.putRound register (count + 1) last) :: saved) (depth + 1)) := by
  refine .next rfl (.next (by simp only [step, stepCode, hrest, hsecond, if_true]; rfl) ?_)
  refine .next rfl (.next (step_count hround hcount) (.split rfl (.next rfl (.fail ?_))))
  simp only [step, stepCode, hrest, hfirst, Bool.false_eq_true, if_false]

/-- A search is aborted where more rounds are to come than returns are left: each round takes one. -/
theorem retry_within (hrest : here.rest = x :: more) (hfirst : first.contains x = false)
    (hsecond : second.contains x = true) (saved : List Trial) (depth returns : Nat)
    (hround : registers.round register = (count, last)) (hregister : register < registers.rounds.length)
    (hcount : count + returns < rounds) :
    retry start fuel returns
      (within second register rounds greedy (lookTwice first second) rest here registers) saved depth =
        .aborted := by
  induction returns generalizing registers count depth with
  | zero =>
    have hends : Ends start (within second register rounds greedy (lookTwice first second) rest here
        registers) saved depth _ := ends_within hrest hfirst hsecond hround hcount saved depth
    rw [retry]
    rcases hends fuel with hend | hend <;> simp only [hend]
  | succ returns ih =>
    have hmore : count < rounds := by omega
    refine retry_of_ends (ends_within hrest hfirst hsecond hround hmore saved depth) ?_
    refine ih _ (round_putRound hregister (count + 1) last) ?_ (by omega)
    simpa [Registers.putRound] using hregister

/-- A pattern that wants one character, or else as many rounds of looking twice as there are returns, is
aborted at a character that it does not want and that the second look sees. -/
theorem search_rounds {wanted : Class} {groups registers : Nat} (hrest : here.rest = x :: more)
    (hwanted : wanted.contains x = false) (hfirst : first.contains x = false)
    (hsecond : second.contains x = true) (hrounds : maxReturns ≤ rounds) :
    search (.choice (.one wanted) (.counted 0 rounds (some rounds) greedy (lookTwice first second)))
      groups (registers + 1) here = .aborted := by
  obtain ⟨returns, hreturns⟩ : ∃ returns, maxReturns = returns + 2 := ⟨maxReturns - 2, rfl⟩
  have hpos : 0 < rounds := by omega
  rw [search, hreturns]
  -- The wanted character does not stand here, and the search returns to the rounds.
  refine retry_of_ends (.next rfl (.split rfl (.next rfl (.next rfl (.next rfl (.split rfl
    (.fail ?_))))))) ?_
  · simp only [step, stepCode, hrest, hwanted, Bool.false_eq_true, if_false]
  -- The first look of the first round fails.
  refine retry_of_ends
    (.next rfl (.next (step_count (by rfl) hpos) (.split rfl (.next rfl (.fail ?_)))))
    ?_
  · simp only [step, stepCode, hrest, hfirst, Bool.false_eq_true, if_false]
  exact retry_within hrest hfirst hsecond _ _ returns (by rfl)
    (by simp [Registers.putRound, Registers.put, Registers.blank]) (by omega)

end Rounds

end Trial

end BundleHardening
