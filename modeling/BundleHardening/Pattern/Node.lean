import BundleHardening.Pattern.Regular

/-!
# Patterns as work to be done

A node is a regular pattern in the form that is run: repetitions are spelled out as copies, optional
copies and loops, and groups as two marks around their body.  What is left to match at any time is
a list of nodes.

Every node at which a choice is made carries a number of its own, so two lists of nodes are equal
only when they stand for the same place in the pattern.
-/

set_option autoImplicit false

namespace BundleHardening

/-- One piece of work. -/
inductive Node where
  | nothing
  /-- Takes one character of the class. -/
  | eat (c : Class)
  /-- Goes on where the condition holds. -/
  | look (condition : Look)
  /-- Records the position under the slot. -/
  | mark (slot : Nat)
  | seq (first second : Node)
  /-- Goes on with the first, or else with the second. -/
  | fork (label : Nat) (first second : Node)
  /-- The body exactly so many times. -/
  | copies (count : Nat) (body : Node)
  /-- The body at most so many times; leaving early leaves all the rest. -/
  | upTo (label count : Nat) (greedy : Bool) (body : Node)
  /-- The body any number of times. -/
  | loop (label : Nat) (greedy : Bool) (body : Node)
  deriving DecidableEq, Repr

namespace Node

/-- A fork of doing something or leaving it, in the order of preference. -/
def optional (label : Nat) (greedy : Bool) (body : Node) : Node :=
  if greedy then fork label body nothing else fork label nothing body

/-- A repetition of a body: copies as far as they are required, then optional ones or a loop.  A body
that may match the empty text is repeated as an optional `body+`, so that preferring to leave an
empty repetition does not overtake the body's other ways to match. -/
def repeated (label least : Nat) (most : Option Nat) (greedy nullable : Bool) (body : Node) : Node :=
  match least, most with
  | 0, some 1 => optional label greedy body
  | 0, none =>
    if nullable then optional label greedy (seq body (loop (label + 1) greedy body))
    else loop label greedy body
  | 1, none => seq body (loop label greedy body)
  | n + 2, none => seq (copies (n + 1) body) (seq body (loop label greedy body))
  | n, some m => if n == m then copies n body else seq (copies n body) (upTo label (m - n) greedy body)

/-- The work of a pattern; choices are numbered from `label` on, and the first number left is given
back. -/
def ofRegular (label : Nat) : Regular → Node × Nat
  | .empty => (nothing, label)
  | .set c => (eat c, label)
  | .look condition => (look condition, label)
  | .group index body =>
    let (node, next) := ofRegular label body
    (seq (mark (2 * index)) (seq node (mark (2 * index + 1))), next)
  | .seq first second =>
    let (a, next) := ofRegular label first
    let (b, next) := ofRegular next second
    (seq a b, next)
  | .alt first second =>
    let (a, next) := ofRegular (label + 1) first
    let (b, next) := ofRegular next second
    (fork label a b, next)
  | .times least most greedy body =>
    let (node, next) := ofRegular (label + 2) body
    (repeated label least most greedy body.nullable node, next)

/-- The work of a whole pattern: its match is recorded as group zero. -/
def ofPattern (pattern : Regular) : Node :=
  (ofRegular 0 (.group 0 pattern)).1

/-- A bound on the number of places in the work. -/
def places : Node → Nat
  | nothing | eat _ | look _ | mark _ => 1
  | seq first second => first.places + second.places + 1
  | fork _ first second => first.places + second.places + 1
  | copies count body => count * (body.places + 1) + 1
  | upTo _ count _ body => count * (body.places + 1) + 1
  | loop _ _ body => body.places + 1

end Node

end BundleHardening
