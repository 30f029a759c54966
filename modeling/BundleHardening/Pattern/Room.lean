import BundleHardening.Pattern.Regular

/-!
# The room a pattern takes

Counted repetitions let a short pattern stand for a very long one.  The linear dialect therefore has
a limit on the room, in bytes, that a pattern takes when every repetition is spelled out: a fixed
amount for each step and each choice, and for a class an amount for each run of its members.
-/

set_option autoImplicit false

namespace BundleHardening

/-- About how many runs of neighbouring characters the class consists of. -/
def Class.runs : Class → Nat
  | nothing => 0
  | anything | single _ | range _ _ => 1
  | word => wordRanges.bounds.size
  | digit => Category.decimalNumber.ranges.bounds.size
  | blank => 10
  | alphabetic => alphabeticRanges.bounds.size
  | category kind => kind.ranges.bounds.size
  | script index => (Script.all[index]?).elim 0 fun s => s.ranges.bounds.size
  | union a b | inter a b | minus a b => a.runs + b.runs
  | compl a => a.runs + 1
  | folded a => 2 * a.runs

/-- The room that one character of the class takes. -/
def Class.room (c : Class) : Nat :=
  if c.isAscii then 64 + 8 * c.runs else 128 + 62 * c.runs

namespace Regular

/-- The room of one step. -/
def stepRoom : Nat := 32

/-- The room that a pattern takes when its repetitions are spelled out. -/
def room : Regular → Nat
  | empty | look _ => stepRoom
  | set (.single c) => stepRoom * c.utf8Size
  | set c => c.room
  | group _ body => body.room + 2 * stepRoom
  | seq first second => first.room + second.room
  | alt first second => first.room + second.room + 2 * stepRoom
  | times least none _ body => max least 1 * body.room + 2 * stepRoom
  | times least (some most) _ body =>
    max least most * body.room + (most - least + 1) * stepRoom

/-- The most room that a pattern of the linear dialect may take: ten megabytes. -/
def maxRoom : Nat := 10 * Nat.pow 2 20

/-- Whether the pattern keeps to the limit. -/
def fits (r : Regular) : Bool :=
  r.room ≤ maxRoom

end Regular

end BundleHardening
