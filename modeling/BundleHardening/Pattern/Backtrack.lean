import BundleHardening.Pattern.Code
import BundleHardening.Pattern.Threads

/-!
# Matching by trial

The steps of an extended pattern are tried in order of preference.  At a choice the state is saved;
a step that fails leads back to the state saved last.  The number of such returns in one search is
limited, and so is the number of states saved at a time: a search that goes beyond a limit is
aborted, without an answer.
-/

set_option autoImplicit false

namespace BundleHardening

/-- The recorded positions and, per repetition, the count and the position of the last round. -/
structure Registers where
  marks : List (Option Cursor)
  rounds : List (Nat × Option Nat)

namespace Registers

/-- No position recorded, for so many groups. -/
def blank (groups registers : Nat) : Registers where
  marks := List.replicate (2 * groups) none
  rounds := List.replicate registers (0, none)

/-- The position recorded under the slot. -/
def at? (r : Registers) (slot : Nat) : Option Cursor :=
  (r.marks[slot]?).join

/-- With a position recorded or cleared. -/
def put (r : Registers) (slot : Nat) (c : Option Cursor) : Registers :=
  { r with marks := r.marks.set slot c }

/-- What the group matched last. -/
def group? (r : Registers) (index : Nat) : Option (Cursor × Cursor) :=
  match r.at? (2 * index), r.at? (2 * index + 1) with
  | some first, some last => some (first, last)
  | _, _ => none

/-- The registers of a match.  Its beginning may have been moved behind its end, and is then taken back
to the end. -/
def capped (r : Registers) : Registers :=
  match r.group? 0 with
  | some (first, last) => if last.index < first.index then r.put 0 (some last) else r
  | none => r

/-- The count of a repetition and the position of its last round. -/
def round (r : Registers) (register : Nat) : Nat × Option Nat :=
  r.rounds.getD register (0, none)

/-- With the count and position of a repetition. -/
def putRound (r : Registers) (register count : Nat) (position : Option Nat) : Registers :=
  { r with rounds := r.rounds.set register (count, position) }

/-- Takes over the groups of a regular match; one that took no part is cleared. -/
def takeOver (r : Registers) (marks : Marks) : (groups : List Nat) → Registers
  | [] => r
  | index :: groups =>
    let first := marks.at? (2 * index)
    let last := if first.isSome then marks.at? (2 * index + 1) else none
    takeOver ((r.put (2 * index) first).put (2 * index + 1) last) marks groups

end Registers

/-- What is left to do, beside the steps of the pattern itself. -/
inductive Task where
  | run (code : Code)
  /-- The next round of a counted repetition. -/
  | count (register least : Nat) (most : Option Nat) (greedy : Bool) (body : Code)
  /-- The next round of a repetition that has to move on. -/
  | move (register least : Nat) (greedy : Bool) (body : Code)
  /-- Goes back to the position. -/
  | restore (position : Cursor)
  /-- Gives up the states saved above the depth. -/
  | cut (depth : Nat)
  /-- Fails after giving up the states saved above the depth. -/
  | refuse (depth : Nat)

/-- A state of the matcher. -/
structure Trial where
  todo : List Task
  here : Cursor
  registers : Registers

/-- What a step leads to. -/
inductive Trial.Step where
  | next (t : Trial)
  /-- Goes on with the first and saves the second. -/
  | split (t later : Trial)
  /-- Goes on with only so many states saved. -/
  | cut (depth : Nat) (t : Trial)
  | fail
  /-- Fails with only so many states saved. -/
  | failTo (depth : Nat)

namespace Trial

/-- Two ways to go on, of which the first is preferred when `greedy`. -/
def Step.either (greedy : Bool) (again leave : Trial) : Step :=
  if greedy then .split again leave else .split leave again

/-- Carries out the step of a pattern; `depth` is the number of states saved and `start` the index
where the search began. -/
def stepCode (start depth : Nat) (code : Code) (rest : List Task) (here : Cursor)
    (registers : Registers) : Step :=
  let go (todo : List Task) : Trial := ⟨todo, here, registers⟩
  match code with
  | .nothing => .next (go rest)
  | .one c =>
    match here.rest with
    | [] => .fail
    | x :: more =>
      if c.contains x then .next ⟨rest, ⟨here.index + 1, x :: here.before, more⟩, registers⟩ else .fail
  | .look condition => if condition.holds here.previous here.following then .next (go rest) else .fail
  | .whole work groups =>
    match Search.run work true here with
    | none => .fail
    | some marks =>
      match marks.at? 1 with
      | none => .fail
      | some stop => .next ⟨rest, stop, registers.takeOver marks groups⟩
  | .seq first second => .next (go (.run first :: .run second :: rest))
  | .choice first second => .split (go (.run first :: rest)) (go (.run second :: rest))
  | .mark slot => .next ⟨rest, here, registers.put slot (some here)⟩
  | .optional greedy body => .either greedy (go (.run body :: rest)) (go rest)
  | .loop greedy body => .either greedy (go (.run body :: .run (.loop greedy body) :: rest)) (go rest)
  | .counted register least most greedy body =>
    .next ⟨.count register least most greedy body :: rest, here,
      registers.putRound register 0 (registers.round register).2⟩
  | .moving register least greedy body =>
    .next ⟨.move register least greedy body :: rest, here,
      registers.putRound register 0 (registers.round register).2⟩
  | .around back body =>
    match here.back? back with
    | none => .fail
    | some before => .next ⟨.run body :: .restore here :: rest, before, registers⟩
  | .aroundNot back body =>
    match here.back? back with
    | none => .split ⟨[.refuse (depth + 1)], here, registers⟩ (go rest)
    | some before => .split ⟨[.run body, .refuse depth], before, registers⟩ (go rest)
  | .atomic body => .next (go (.run body :: .cut depth :: rest))
  | .backref index =>
    match registers.group? index with
    | none => .fail
    | some (first, last) =>
      match here.along? (first.upTo last) with
      | none => .fail
      | some stop => .next ⟨rest, stop, registers⟩
  | .ifGroup index => if (registers.at? (2 * index)).isSome then .next (go rest) else .fail
  | .searchStart => if here.index ≤ start then .next (go rest) else .fail
  | .conditional condition yes no =>
    .split (go (.run condition :: .cut depth :: .run yes :: rest)) (go (.run no :: rest))

/-- Carries out one task. -/
def step (start depth : Nat) (task : Task) (rest : List Task) (here : Cursor)
    (registers : Registers) : Step :=
  match task with
  | .run code => stepCode start depth code rest here registers
  | .count register least most greedy body =>
    let (count, last) := registers.round register
    if most == some count then .next ⟨rest, here, registers⟩
    else
      let registers := registers.putRound register (count + 1) last
      let again : Trial := ⟨.run body :: task :: rest, here, registers⟩
      if count < least then .next again else .either greedy again ⟨rest, here, registers⟩
  | .move register least greedy body =>
    let (count, last) := registers.round register
    if 0 < count ∧ last = some here.index then .fail
    else if count < least then
      .next ⟨.run body :: task :: rest, here, registers.putRound register (count + 1) last⟩
    else
      let registers := registers.putRound register (count + 1) (some here.index)
      .either greedy ⟨.run body :: task :: rest, here, registers⟩ ⟨rest, here, registers⟩
  | .restore position => .next ⟨rest, position, registers⟩
  | .cut depth => .cut depth ⟨rest, here, registers⟩
  | .refuse depth => .failTo depth

/-- How a run without return ends. -/
inductive Ending where
  | matched (registers : Registers)
  | failed (saved : List Trial) (depth : Nat)
  | overflow

/-- The greatest number of states saved at a time. -/
def maxSaved : Nat := 1000000

/-- The greatest number of returns to a saved state in one search. -/
def maxReturns : Nat := 1000000

/-- Goes on until the pattern has matched or a step fails. -/
def attempt (start : Nat) : (fuel : Nat) → Trial → (saved : List Trial) → (depth : Nat) → Ending
  | 0, _, _, _ => .overflow
  | fuel + 1, t, saved, depth =>
    match t.todo with
    | [] => .matched t.registers
    | task :: rest =>
      match step start depth task rest t.here t.registers with
      | .next t => attempt start fuel t saved depth
      | .split t later =>
        if maxSaved ≤ depth then .overflow else attempt start fuel t (later :: saved) (depth + 1)
      | .cut kept t => attempt start fuel t (saved.drop (depth - kept)) kept
      | .fail => .failed saved depth
      | .failTo kept => .failed (saved.drop (depth - kept)) kept

/-- What a search comes to. -/
inductive Outcome where
  | matched (registers : Registers)
  | unmatched
  | aborted

/-- Returns to the state saved last after each failure, at most `returns` times. -/
def retry (start fuel : Nat) : (returns : Nat) → Trial → (saved : List Trial) → (depth : Nat) →
    Outcome
  | returns, t, saved, depth =>
    match attempt start fuel t saved depth with
    | .matched registers => .matched registers
    | .overflow => .aborted
    | .failed [] _ => .unmatched
    | .failed (t :: saved) depth =>
      match returns with
      | 0 => .aborted
      | returns + 1 => retry start fuel returns t saved (depth - 1)

/-- The steps of a search: from each position on in turn, the steps of the pattern between the marks
of the whole match. -/
def searching (code : Code) : Code :=
  .seq (.loop false (.one .anything)) (.seq (.mark 0) (.seq code (.mark 1)))

/-- Searches from the position on. -/
def search (code : Code) (groups registers : Nat) (start : Cursor) : Outcome :=
  let n := start.before.length + start.rest.length + 2
  retry start.index ((code.weight + 8) * n * n * n) maxReturns
    ⟨[.run (searching code)], start, .blank groups registers⟩ [] 0

end Trial

end BundleHardening
