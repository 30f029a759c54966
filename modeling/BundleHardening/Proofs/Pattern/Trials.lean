import BundleHardening.Pattern.Backtrack
import BundleHardening.Proofs.Pattern.Positions

/-!
# Where a match found by trial lies

A search by trial records positions of the text that is searched.  It goes back before the position where
it began only while it looks behind, and returns from there.  So a match begins no earlier than the
search, unless the steps record its beginning while they look behind
(`Code.reachesBack`, `Trial.placed_search`).

The invariant is that of one state, `Trial.Live`, and every task keeps it (`Trial.sound_step`).  A state
that has yet to refuse cannot match any more, and nothing need be known of it: such are the states of a
look that must fail.
-/

set_option autoImplicit false

namespace BundleHardening

namespace Code

/-- Whether the steps may record where the match begins.  What is recorded in a look that must fail is
lost. -/
def setsStart : Code → Bool
  | mark slot => slot == 0
  | whole _ groups => groups.contains 0
  | seq first second | choice first second => first.setsStart || second.setsStart
  | optional _ body | loop _ body | counted _ _ _ _ body | moving _ _ _ body | around _ body
  | atomic body => body.setsStart
  | conditional condition yes no => condition.setsStart || yes.setsStart || no.setsStart
  | nothing | one _ | look _ | aroundNot _ _ | backref _ | ifGroup _ | searchStart => false

/-- Whether the steps may record where the match begins while they look behind. -/
def reachesBack : Code → Bool
  | seq first second | choice first second => first.reachesBack || second.reachesBack
  | optional _ body | loop _ body | counted _ _ _ _ body | moving _ _ _ body | around 0 body
  | atomic body => body.reachesBack
  | around (_ + 1) body => body.setsStart
  | conditional condition yes no => condition.reachesBack || yes.reachesBack || no.reachesBack
  | nothing | one _ | look _ | whole _ _ | mark _ | aroundNot _ _ | backref _ | ifGroup _
  | searchStart => false

/-- The steps record no beginning of the match before that of the search; `behind` tells that they are
taken while looking behind. -/
def Allowed (behind : Bool) (code : Code) : Prop :=
  if behind then code.setsStart = false else code.reachesBack = false

section Allowed

variable {behind : Bool} {first second : Code}

theorem allowed_seq_iff :
    (seq first second).Allowed behind ↔ first.Allowed behind ∧ second.Allowed behind := by
  cases behind <;> simp [Allowed, setsStart, reachesBack]

theorem allowed_choice_iff :
    (choice first second).Allowed behind ↔ first.Allowed behind ∧ second.Allowed behind := by
  cases behind <;> simp [Allowed, setsStart, reachesBack]

theorem allowed_conditional_iff {condition yes no : Code} :
    (conditional condition yes no).Allowed behind ↔
      condition.Allowed behind ∧ yes.Allowed behind ∧ no.Allowed behind := by
  cases behind <;> simp [Allowed, setsStart, reachesBack, and_assoc]

end Allowed

/-- The steps end in recording where the match ends. -/
def closes : Code → Bool
  | mark slot => slot == 1
  | seq _ second => second.closes
  | _ => false

end Code

namespace Registers

variable {r : Registers} {slot slot' : Nat} {c : Option Cursor}

theorem at?_put_of_ne (h : slot' ≠ slot) : (r.put slot c).at? slot' = r.at? slot' := by
  rw [at?, at?, put, List.getElem?_set_ne h.symm]

theorem eq_of_at?_put {found : Cursor} (h : (r.put slot c).at? slot = some found) :
    c = some found := by
  rw [at?, put, List.getElem?_set_self'] at h
  cases hold : r.marks[slot]? with
  | none =>
    rw [hold] at h
    cases h
  | some old =>
    rw [hold] at h
    exact h

theorem at?_of_group? {index : Nat} {first last : Cursor} (h : r.group? index = some (first, last)) :
    r.at? (2 * index) = some first ∧ r.at? (2 * index + 1) = some last := by
  rw [group?] at h
  split at h
  · next hfirst hlast =>
    cases h
    exact ⟨hfirst, hlast⟩
  · cases h

/-- A match begins where its beginning was recorded, or it was taken back to the end. -/
theorem group?_capped {first last : Cursor} (h : r.capped.group? 0 = some (first, last)) :
    r.at? 1 = some last ∧ (r.at? 0 = some first ∧ first.index ≤ last.index ∨ first = last) := by
  rw [capped] at h
  split at h
  · next first' last' hgroup =>
    obtain ⟨hfirst', hlast'⟩ := at?_of_group? hgroup
    split at h
    · obtain ⟨hfirst, hlast⟩ := at?_of_group? h
      cases eq_of_at?_put hfirst
      rw [at?_put_of_ne Nat.one_ne_zero] at hlast
      cases hlast'.symm.trans hlast
      exact ⟨hlast, Or.inr rfl⟩
    · next hle =>
      cases hgroup.symm.trans h
      exact ⟨hlast', Or.inl ⟨hfirst', Nat.le_of_not_lt hle⟩⟩
  · next hgroup =>
    rw [hgroup] at h
    cases h

@[simp]
theorem at?_blank (groups registers slot : Nat) : (blank groups registers).at? slot = none := by
  simp only [at?, blank, List.getElem?_replicate]
  split <;> rfl

/-- Only group zero of a regular match takes over the beginning of the match. -/
theorem at?_zero_takeOver {r : Registers} {marks : Marks} {groups : List Nat} {c : Cursor}
    (h : (r.takeOver marks groups).at? 0 = some c) :
    r.at? 0 = some c ∨ groups.contains 0 = true ∧ marks.at? 0 = some c := by
  induction groups generalizing r with
  | nil => exact Or.inl h
  | cons index groups ih =>
    rcases ih h with hput | ⟨hlater, hmarks⟩
    · rw [at?_put_of_ne (Nat.succ_ne_zero _).symm] at hput
      by_cases hindex : index = 0
      · subst hindex
        exact Or.inr ⟨by simp, eq_of_at?_put hput⟩
      · rw [at?_put_of_ne (by omega)] at hput
        exact Or.inl hput
    · exact Or.inr ⟨by simpa using Or.inr hlater, hmarks⟩

end Registers

namespace Task

/-- The task ends in recording where the match ends. -/
def closes : Task → Bool
  | run code => code.closes
  | _ => false

/-- The task refuses. -/
def refuses : Task → Bool
  | refuse _ => true
  | _ => false

/-- What is left to do records no beginning of the match before that of the search, and comes back from
looking behind.  It does not refuse. -/
def Ready (t : Text) (start : Nat) : (behind : Bool) → List Task → Prop
  | behind, [] => behind = false
  | behind, run code :: rest => code.Allowed behind ∧ Ready t start behind rest
  | behind, count _ _ _ _ body :: rest => body.Allowed behind ∧ Ready t start behind rest
  | behind, move _ _ _ body :: rest => body.Allowed behind ∧ Ready t start behind rest
  | _, restore position :: rest => position.IsIn t ∧
      ∃ behind, (behind = false → start ≤ position.index) ∧ Ready t start behind rest
  | behind, cut _ :: rest => Ready t start behind rest
  | _, refuse _ :: _ => False

end Task

namespace Trial

/-- The state has yet to refuse, and cannot match any more. -/
def Doomed (s : Trial) : Prop :=
  ∃ depth, .refuse depth ∈ s.todo

/-- A state that may match yet.  It stands at a position of the text, before the beginning of the search
only while it looks behind, and has recorded no earlier beginning of the match.  What it has left to do
ends in recording the end of the match, or it has done so. -/
structure Live (s : Trial) (t : Text) (start : Nat) (behind : Bool) : Prop where
  isIn : s.here.IsIn t
  from_start : behind = false → start ≤ s.here.index
  ready : Task.Ready t start behind s.todo
  first : ∀ c, s.registers.at? 0 = some c → c.IsIn t ∧ start ≤ c.index
  last : Closing Task.closes s.todo ∨ s.todo = [] ∧ ∀ c, s.registers.at? 1 = some c → c = s.here

/-- A state of a search that began at the index. -/
def Sound (t : Text) (start : Nat) (s : Trial) : Prop :=
  s.Doomed ∨ ∃ behind, s.Live t start behind

/-- Every state that the step leads to has the property. -/
def Step.All (P : Trial → Prop) : Step → Prop
  | next s => P s
  | split s later => P s ∧ P later
  | cut _ s => P s
  | fail | failTo _ => True

section Step

variable {P : Trial → Prop} {start depth : Nat} {task : Task} {code : Code} {rest : List Task}
  {here : Cursor} {registers : Registers} {t : Text} {behind : Bool}

theorem Step.All.either {greedy : Bool} {again leave : Trial} (hagain : P again) (hleave : P leave) :
    (Step.either greedy again leave).All P := by
  cases greedy with
  | true => exact ⟨hagain, hleave⟩
  | false => exact ⟨hleave, hagain⟩

/-- A state that goes on with what stood behind its first task is sound when it is live. -/
theorem Sound.goOn (h : Sound t start ⟨task :: rest, here, registers⟩)
    (htask : task.refuses = false) (front : List Task) {here' : Cursor}
    {registers' : Registers}
    (hlive : ∀ behind, Live ⟨task :: rest, here, registers⟩ t start behind →
      ∃ behind', Live ⟨front ++ rest, here', registers'⟩ t start behind') :
    Sound t start ⟨front ++ rest, here', registers'⟩ := by
  rcases h with ⟨depth, hmem⟩ | ⟨behind, h⟩
  -- The refusal stands behind the first task, and so it is still to be done.
  · rcases List.mem_cons.mp hmem with hfirst | hrest
    · subst hfirst
      cases htask
    · exact Or.inl ⟨depth, List.mem_append_right front hrest⟩
  · exact Or.inr (hlive behind h)

/-- What a live state has left to do ends in recording the end of the match. -/
theorem Live.closing (h : Live ⟨task :: rest, here, registers⟩ t start behind) :
    Closing Task.closes (task :: rest) := by
  rcases h.last with hclosing | ⟨hnil, -⟩
  · exact hclosing
  · cases hnil

/-- A state that moves on or goes back, with the recorded positions as they were. -/
theorem Sound.move (h : Sound t start ⟨task :: rest, here, registers⟩) (htask : task.refuses = false)
    (hcloses : task.closes = false) (front : List Task) {here' : Cursor} {registers' : Registers}
    (hmarks : registers'.marks = registers.marks)
    (hmove : ∀ behind, here.IsIn t → (behind = false → start ≤ here.index) →
      Task.Ready t start behind (task :: rest) → here'.IsIn t ∧ ∃ behind',
        (behind' = false → start ≤ here'.index) ∧ Task.Ready t start behind' (front ++ rest)) :
    Sound t start ⟨front ++ rest, here', registers'⟩ := by
  refine h.goOn htask front fun behind h => ?_
  obtain ⟨hin, behind', hfrom, hready⟩ := hmove behind h.isIn h.from_start h.ready
  refine ⟨behind', hin, hfrom, hready, fun c hc => ?_,
    Or.inl ((h.closing.of_not_closes hcloses).append front)⟩
  rw [Registers.at?, hmarks] at hc
  exact h.first c hc

/-- A state that stays where it is, with other tasks before what stood behind its first one. -/
theorem Sound.stay (h : Sound t start ⟨task :: rest, here, registers⟩) (htask : task.refuses = false)
    (hcloses : task.closes = false) (front : List Task)
    (hready : ∀ behind, Task.Ready t start behind (task :: rest) →
      Task.Ready t start behind (front ++ rest))
    {registers' : Registers} (hmarks : registers'.marks = registers.marks) :
    Sound t start ⟨front ++ rest, here, registers'⟩ :=
  h.move htask hcloses front hmarks fun behind hin hfrom h =>
    ⟨hin, behind, hfrom, hready behind h⟩

/-- Steps that end at a position no further back, with nothing recorded. -/
theorem Sound.forth (h : Sound t start ⟨.run code :: rest, here, registers⟩) (hcloses : code.closes = false)
    {stop : Cursor} (hstop : here.IsIn t → stop.IsIn t ∧ here.index ≤ stop.index) :
    Sound t start ⟨rest, stop, registers⟩ :=
  h.move rfl hcloses [] rfl fun behind hin hfrom hready =>
    ⟨(hstop hin).1, behind, fun hbehind => Nat.le_trans (hfrom hbehind) (hstop hin).2, hready.2⟩

/-- Steps that are passed over. -/
theorem Sound.skip (h : Sound t start ⟨.run code :: rest, here, registers⟩) (hcloses : code.closes = false) :
    Sound t start ⟨rest, here, registers⟩ :=
  h.forth hcloses fun hin => ⟨hin, Nat.le_refl _⟩

/-- Recording the position.  The beginning of the match is not recorded while looking behind. -/
theorem Sound.mark {slot : Nat} (h : Sound t start ⟨.run (.mark slot) :: rest, here, registers⟩) :
    Sound t start ⟨rest, here, registers.put slot (some here)⟩ := by
  refine h.goOn rfl [] fun behind h => ⟨behind, h.isIn, h.from_start, h.ready.2, ?_, ?_⟩
  · intro c hc
    by_cases hslot : slot = 0
    · subst hslot
      cases Registers.eq_of_at?_put hc
      refine ⟨h.isIn, h.from_start ?_⟩
      cases behind with
      | false => rfl
      | true => cases h.ready.1
    · rw [Registers.at?_put_of_ne (Ne.symm hslot)] at hc
      exact h.first c hc
  · by_cases hrest : rest = []
    · subst hrest
      have hcloses : Task.closes (.run (.mark slot)) = true := Closing.singleton_iff.mp h.closing
      obtain rfl : slot = 1 := eq_of_beq hcloses
      exact Or.inr ⟨rfl, fun c hc => (Option.some.inj (Registers.eq_of_at?_put hc)).symm⟩
    · exact Or.inl (h.closing.of_cons hrest)

/-- A regular part is matched from the position on. -/
theorem Sound.whole {work : Node} {groups : List Nat} {marks : Marks} {stop : Cursor}
    (h : Sound t start ⟨.run (.whole work groups) :: rest, here, registers⟩)
    (hrun : Search.run work true here = some marks) (hstop : marks.at? 1 = some stop) :
    Sound t start ⟨rest, stop, registers.takeOver marks groups⟩ := by
  refine h.goOn rfl [] fun behind h => ?_
  have hrecorded := (Search.recorded_run h.isIn hrun).from_low
  obtain ⟨hin, hle⟩ := hrecorded _ (Marks.mem_of_at? hstop)
  refine ⟨behind, hin, fun hbehind => Nat.le_trans (h.from_start hbehind) hle, h.ready.2,
    fun c hc => ?_, Or.inl (h.closing.of_not_closes rfl)⟩
  rcases Registers.at?_zero_takeOver hc with hold | ⟨hgroups, hmarks⟩
  · exact h.first c hold
  · obtain ⟨hcin, hcle⟩ := hrecorded _ (Marks.mem_of_at? hmarks)
    refine ⟨hcin, Nat.le_trans (h.from_start ?_) hcle⟩
    cases behind with
    | false => rfl
    | true =>
      have hnone : groups.contains 0 = false := h.ready.1
      rw [hnone] at hgroups
      cases hgroups

/-- A sequence closes if its second part does. -/
theorem Sound.seq {first second : Code}
    (h : Sound t start ⟨.run (.seq first second) :: rest, here, registers⟩) :
    Sound t start ⟨.run first :: .run second :: rest, here, registers⟩ := by
  refine h.goOn rfl [.run first, .run second] fun behind h =>
    ⟨behind, h.isIn, h.from_start, ?_, h.first, ?_⟩
  · obtain ⟨hfirst, hsecond⟩ := Code.allowed_seq_iff.mp h.ready.1
    exact ⟨hfirst, hsecond, h.ready.2⟩
  · by_cases hrest : rest = []
    · subst hrest
      have hcloses : Task.closes (.run (.seq first second)) = true :=
        Closing.singleton_iff.mp h.closing
      have hsecond : Task.closes (.run second) = true := hcloses
      exact Or.inl ((Closing.singleton_iff.mpr hsecond).append [.run first])
    · exact Or.inl ((h.closing.of_cons hrest).append [.run first, .run second])

/-- A look goes back for its body, and then returns to the position. -/
theorem Sound.around {back : Nat} {body : Code} {before : Cursor}
    (h : Sound t start ⟨.run (.around back body) :: rest, here, registers⟩)
    (hback : here.back? back = some before) :
    Sound t start ⟨.run body :: .restore here :: rest, before, registers⟩ := by
  refine h.move rfl rfl [.run body, .restore here] rfl fun behind hin hfrom hready => ?_
  refine ⟨hin.back? hback, ?_⟩
  cases back with
  | zero =>
    cases hback
    refine ⟨behind, hfrom, ?_, hin, behind, hfrom, hready.2⟩
    cases behind <;> exact hready.1
  | succ back =>
    refine ⟨true, nofun, ?_, hin, behind, hfrom, hready.2⟩
    cases behind <;> exact hready.1

/-- The steps of a pattern lead from a sound state to sound states. -/
theorem sound_stepCode (h : Sound t start ⟨.run code :: rest, here, registers⟩) :
    (stepCode start depth code rest here registers).All (Sound t start) := by
  cases code with
  | nothing => exact h.skip rfl
  | one c =>
    rw [stepCode]
    split
    · trivial
    · next x more hrest =>
      split
      · obtain ⟨index, before, text⟩ := here
        cases hrest
        exact h.forth rfl fun hin => ⟨hin.forth, Nat.le_succ _⟩
      · trivial
  | look condition =>
    rw [stepCode]
    split
    · exact h.skip rfl
    · trivial
  | whole work groups =>
    rw [stepCode]
    split
    · trivial
    · next marks hrun =>
      split
      · trivial
      · next stop hstop => exact h.whole hrun hstop
  | seq first second => exact h.seq
  | choice first second =>
    refine ⟨h.stay rfl rfl [.run first] (fun behind hready => ?_) rfl,
      h.stay rfl rfl [.run second] (fun behind hready => ?_) rfl⟩
    · exact ⟨(Code.allowed_choice_iff.mp hready.1).1, hready.2⟩
    · exact ⟨(Code.allowed_choice_iff.mp hready.1).2, hready.2⟩
  | mark slot => exact h.mark
  | optional greedy body =>
    exact .either (h.stay rfl rfl [.run body] (fun _ hready => hready) rfl) (h.skip rfl)
  | loop greedy body =>
    exact .either
      (h.stay rfl rfl [.run body, .run (.loop greedy body)]
        (fun _ hready => ⟨hready.1, hready.1, hready.2⟩) rfl) (h.skip rfl)
  | counted register least most greedy body =>
    exact h.stay rfl rfl [.count register least most greedy body] (fun _ hready => hready) rfl
  | moving register least greedy body =>
    exact h.stay rfl rfl [.move register least greedy body] (fun _ hready => hready) rfl
  | around back body =>
    rw [stepCode]
    split
    · trivial
    · next before hback => exact h.around hback
  | aroundNot back body =>
    -- The state for the body refuses once the body has matched; the other one goes on.
    rw [stepCode]
    split
    · exact ⟨Or.inl ⟨_, List.mem_singleton_self _⟩, h.skip rfl⟩
    · exact ⟨Or.inl ⟨_, List.mem_cons_of_mem _ (List.mem_singleton_self _)⟩, h.skip rfl⟩
  | atomic body =>
    exact h.stay rfl rfl [.run body, .cut depth] (fun _ hready => hready) rfl
  | backref index =>
    rw [stepCode]
    split
    · trivial
    · split
      · trivial
      · next stop halong => exact h.forth rfl fun hin => hin.along? halong
  | ifGroup index =>
    rw [stepCode]
    split
    · exact h.skip rfl
    · trivial
  | searchStart =>
    rw [stepCode]
    split
    · exact h.skip rfl
    · trivial
  | conditional condition yes no =>
    refine ⟨h.stay rfl rfl [.run condition, .cut depth, .run yes] (fun behind hready => ?_) rfl,
      h.stay rfl rfl [.run no] (fun behind hready => ?_) rfl⟩
    · obtain ⟨hcondition, hyes, -⟩ := Code.allowed_conditional_iff.mp hready.1
      exact ⟨hcondition, hyes, hready.2⟩
    · exact ⟨(Code.allowed_conditional_iff.mp hready.1).2.2, hready.2⟩

/-- Every task leads from a sound state to sound states. -/
theorem sound_step (depth : Nat) (h : Sound t start ⟨task :: rest, here, registers⟩) :
    (step start depth task rest here registers).All (Sound t start) := by
  cases task with
  | run code => exact sound_stepCode h
  | count register least most greedy body =>
    have again (count : Nat) (last : Option Nat) : Sound t start
        ⟨.run body :: .count register least most greedy body :: rest, here,
          registers.putRound register count last⟩ :=
      h.stay rfl rfl [.run body, .count register least most greedy body]
        (fun _ hready => ⟨hready.1, hready⟩) rfl
    have leave (registers' : Registers) (hmarks : registers'.marks = registers.marks) :
        Sound t start ⟨rest, here, registers'⟩ :=
      h.stay rfl rfl [] (fun _ hready => hready.2) hmarks
    rw [step]
    dsimp only
    split
    · exact leave _ rfl
    · split
      · exact again ..
      · exact .either (again ..) (leave _ rfl)
  | move register least greedy body =>
    have again (count : Nat) (last : Option Nat) : Sound t start
        ⟨.run body :: .move register least greedy body :: rest, here,
          registers.putRound register count last⟩ :=
      h.stay rfl rfl [.run body, .move register least greedy body]
        (fun _ hready => ⟨hready.1, hready⟩) rfl
    have leave (count : Nat) (last : Option Nat) :
        Sound t start ⟨rest, here, registers.putRound register count last⟩ :=
      h.stay rfl rfl [] (fun _ hready => hready.2) rfl
    rw [step]
    dsimp only
    split
    · trivial
    · split
      · exact again ..
      · exact .either (again ..) (leave ..)
  | restore position => exact h.move rfl rfl [] rfl fun _ _ _ hready => hready
  | cut depth => exact h.stay rfl rfl [] (fun _ hready => hready) rfl
  | refuse depth => trivial

end Step

/-- What is recorded of the match: where it begins and ends, at positions of the text from the beginning of
the search on. -/
structure Placed (r : Registers) (t : Text) (start : Nat) : Prop where
  first : ∀ c, r.at? 0 = some c → c.IsIn t ∧ start ≤ c.index
  last : ∀ c, r.at? 1 = some c → c.IsIn t ∧ start ≤ c.index

variable {t : Text} {start : Nat}

/-- A sound state with nothing left to do has matched. -/
theorem Sound.placed {s : Trial} (h : Sound t start s) (htodo : s.todo = []) :
    Placed s.registers t start := by
  rcases h with ⟨depth, hmem⟩ | ⟨behind, h⟩
  · rw [htodo] at hmem
    cases hmem
  · refine ⟨h.first, fun c hc => ?_⟩
    have hbehind : behind = false := by
      have hready := h.ready
      rw [htodo] at hready
      exact hready
    rcases h.last with hclosing | ⟨-, hlast⟩
    · rw [htodo] at hclosing
      exact absurd hclosing Closing.not_nil
    · rw [hlast c hc]
      exact ⟨h.isIn, h.from_start hbehind⟩

/-- The ending of a run of sound states. -/
def Ending.Sound (t : Text) (start : Nat) : Ending → Prop
  | matched registers => Placed registers t start
  | failed saved _ => ∀ s ∈ saved, Trial.Sound t start s
  | overflow => True

/-- A run without return keeps the states sound, whichever of them are given up. -/
theorem sound_attempt : ∀ (fuel : Nat) (s : Trial) (saved : List Trial) (depth : Nat),
    Sound t start s → (∀ later ∈ saved, Sound t start later) →
      (attempt start fuel s saved depth).Sound t start := by
  intro fuel
  induction fuel with
  | zero => exact fun _ _ _ _ _ => trivial
  | succ fuel ih =>
    intro s saved depth hs hsaved
    have hdropped (n : Nat) : ∀ later ∈ saved.drop n, Sound t start later :=
      fun later hlater => hsaved later (List.mem_of_mem_drop hlater)
    obtain ⟨todo, here, registers⟩ := s
    cases todo with
    | nil => exact hs.placed rfl
    | cons task rest =>
      have hstep := sound_step depth hs
      simp only [attempt]
      cases hresult : step start depth task rest here registers with
      | next s =>
        rw [hresult] at hstep
        exact ih s saved depth hstep hsaved
      | split s later =>
        rw [hresult] at hstep
        dsimp only
        split
        · trivial
        · exact ih s _ _ hstep.1 (List.forall_mem_cons.mpr ⟨hstep.2, hsaved⟩)
      | cut kept s =>
        rw [hresult] at hstep
        exact ih s _ kept hstep (hdropped _)
      | fail => exact hsaved
      | failTo kept => exact hdropped _

/-- A search matches in the run at hand, or in one of the runs after a return. -/
theorem of_retry_eq_matched {fuel returns depth : Nat} {s : Trial} {saved : List Trial} {r : Registers}
    (h : retry start fuel returns s saved depth = .matched r) :
    attempt start fuel s saved depth = .matched r ∨ ∃ fewer s' saved' depth',
      returns = fewer + 1 ∧ attempt start fuel s saved depth = .failed (s' :: saved') depth' ∧
        retry start fuel fewer s' saved' (depth' - 1) = .matched r := by
  rw [retry] at h
  cases hattempt : attempt start fuel s saved depth with
  | matched registers =>
    rw [hattempt] at h
    cases h
    exact Or.inl rfl
  | overflow =>
    rw [hattempt] at h
    cases h
  | failed saved' depth' =>
    rw [hattempt] at h
    cases saved' with
    | nil => cases h
    | cons s' saved' =>
      cases returns with
      | zero => cases h
      | succ fewer => exact Or.inr ⟨fewer, s', saved', depth', rfl, rfl, h⟩

theorem placed_of_retry {fuel returns depth : Nat} {s : Trial} {saved : List Trial} {r : Registers}
    (hs : Sound t start s) (hsaved : ∀ later ∈ saved, Sound t start later)
    (h : retry start fuel returns s saved depth = .matched r) : Placed r t start := by
  induction returns generalizing s saved depth with
  | zero =>
    have hending := sound_attempt fuel s saved depth hs hsaved
    rcases of_retry_eq_matched h with hmatched | ⟨fewer, _, _, _, hreturns, -, -⟩
    · rwa [hmatched] at hending
    · cases hreturns
  | succ returns ih =>
    have hending := sound_attempt fuel s saved depth hs hsaved
    rcases of_retry_eq_matched h with hmatched | ⟨fewer, s', saved', depth', hreturns, hfailed, hretry⟩
    · rwa [hmatched] at hending
    · rw [hfailed] at hending
      obtain ⟨hs', hsaved'⟩ := List.forall_mem_cons.mp hending
      cases hreturns
      exact ih hs' hsaved' hretry

/-- A search that finds a match has recorded its ends from where it began on, if the steps do not record a
beginning while they look behind. -/
theorem placed_search {code : Code} {groups registers : Nat} {here : Cursor} {r : Registers}
    (hin : here.IsIn t) (hback : code.reachesBack = false)
    (h : search code groups registers here = .matched r) : Placed r t here.index := by
  have hready : (searching code).Allowed false := by
    simpa [searching, Code.Allowed, Code.reachesBack] using hback
  have hlive : Live ⟨[.run (searching code)], here, .blank groups registers⟩ t here.index false :=
    ⟨hin, fun _ => Nat.le_refl _, ⟨hready, rfl⟩, fun c hc => by simp at hc,
      Or.inl (Closing.singleton_iff.mpr rfl)⟩
  exact placed_of_retry (Or.inr ⟨false, hlive⟩) (fun _ hlater => absurd hlater List.not_mem_nil) h

end Trial

end BundleHardening
