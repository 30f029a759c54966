import BundleHardening.Pattern.Escape

/-!
# Reading a bracketed class

A class in brackets lists characters, ranges, named sets and further classes in brackets, and may
combine such lists by intersection, difference and symmetric difference, from the left.
-/

set_option autoImplicit false

namespace BundleHardening.Class

/-- The ways to combine two lists of a class. -/
inductive Combination where
  | both
  | first
  | one

/-- The class that a combination of two classes stands for. -/
def Combination.apply : Combination → Class → Class → Class
  | both, a, b => .inter a b
  | first, a, b => .minus a b
  | one, a, b => .symmetric a b

/-- What has been read of a class: what stands before the last combination sign, and the list since
then in reverse. -/
structure Partial where
  left : Option (Combination × Class) := none
  items : List Class := []

namespace Partial

/-- The class read so far. -/
def value (p : Partial) : Class :=
  let last := Class.ofList p.items.reverse
  match p.left with
  | none => last
  | some (sign, left) => sign.apply left last

/-- With one more member. -/
def add (p : Partial) (c : Class) : Partial :=
  { p with items := c :: p.items }

/-- With a combination sign after what has been read. -/
def combine (p : Partial) (sign : Combination) : Partial :=
  { left := some (sign, p.value) }

end Partial

/-- Reads a named set such as `[:alpha:]` behind its opening bracket; `none` when there is none. -/
def readNamed (flags : Flags) (t : Text) : Option (Option Class × Text) :=
  match t with
  | ':' :: t =>
    let (negated, t) := match t with
      | '^' :: t => (true, t)
      | t => (false, t)
    let name := t.takeWhile (· != ':')
    match t.dropWhile (· != ':') with
    | ':' :: ']' :: t =>
      (Class.posix? (String.ofList name)).map fun c => (flags.close negated c, t)
    | _ => none
  | _ => none

/-- Reads one end of a range. -/
def readItem (flags : Flags) : Text → Option (Escape × Text)
  | [] => none
  | '\\' :: t => Escape.read flags t
  | c :: t => some (.literal c, t)

/-- The class of a member that is no range. -/
def ofItem (flags : Flags) : Escape → Option Class
  | .literal c => if flags.unicode || c.toNat < 128 then some (.single c) else none
  | .set c => some c
  | .look _ => none

/-- The class of a range. -/
def ofRange (flags : Flags) : Escape → Escape → Option Class
  | .literal first, .literal last =>
    if first ≤ last ∧ (flags.unicode ∨ last.toNat < 128) then some (.range first last) else none
  | _, _ => none

/-- Reads a member: a character, a range or an escape.  A hyphen before the closing bracket or before
another hyphen forms no range. -/
def readMember (flags : Flags) (t : Text) : Option (Class × Text) := do
  let (first, t) ← readItem flags t
  match flags.skip t with
  | [] => none
  | '-' :: more =>
    let next := (flags.skip more).head?
    if next == some ']' || next == some '-' then
      let c ← ofItem flags first
      pure (c, '-' :: more)
    else
      let (last, t) ← readItem flags (flags.skip more)
      let c ← ofRange flags first last
      pure (c, t)
  | t =>
    let c ← ofItem flags first
    pure (c, t)

/-- Reads the hyphens that stand for themselves at the beginning of a class. -/
def readHyphens (flags : Flags) : (fuel : Nat) → Partial → Text → Partial × Text
  | fuel + 1, p, '-' :: t => readHyphens flags fuel (p.add (.single '-')) (flags.skip t)
  | _, p, t => (p, t)

/-- Reads what follows the opening bracket of a class: a sign of negation, hyphens, and a closing
bracket in first place, which stands for itself. -/
def readOpening (flags : Flags) (t : Text) : Bool × Partial × Text :=
  let (negated, t) := match flags.skip t with
    | '^' :: t => (true, flags.skip t)
    | t => (false, t)
  let (p, t) := readHyphens flags t.length {} t
  match p.items, t with
  | [], ']' :: t => (negated, p.add (.single ']'), flags.skip t)
  | _, t => (negated, p, t)

/-- Reads the rest of a class up to its closing bracket. -/
def readBody (flags : Flags) : (fuel : Nat) → (negated : Bool) → Partial → Text →
    Option (Class × Text)
  | 0, _, _, _ => none
  | fuel + 1, negated, p, t =>
    match flags.skip t with
    | [] => none
    | '[' :: t =>
      match readNamed flags t with
      | some (c, t) => c.bind fun c => readBody flags fuel negated (p.add c) t
      | none => do
        let (innerNegated, inner, t) := readOpening flags t
        let (c, t) ← readBody flags fuel innerNegated inner t
        readBody flags fuel negated (p.add c) t
    | ']' :: t => (flags.close negated p.value).map (·, t)
    | '&' :: '&' :: t => readBody flags fuel negated (p.combine .both) t
    | '-' :: '-' :: t => readBody flags fuel negated (p.combine .first) t
    | '~' :: '~' :: t => readBody flags fuel negated (p.combine .one) t
    | t => do
      let (c, t) ← readMember flags t
      readBody flags fuel negated (p.add c) t

/-- Reads a class behind its opening bracket. -/
def read (flags : Flags) (t : Text) : Option (Class × Text) :=
  let (negated, p, rest) := readOpening flags t
  readBody flags (t.length + 1) negated p rest

end BundleHardening.Class
