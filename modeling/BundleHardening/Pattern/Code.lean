import BundleHardening.Pattern.Extended
import BundleHardening.Pattern.Node

/-!
# Extended patterns as steps to be tried

The form in which an extended pattern is run.  What is regular is handed over whole where this
cannot change which match is found: a prefix and a suffix of fixed length in a sequence, and at the
end of an innermost part whatever is regular.  All else becomes steps at which the matcher may
return to an earlier choice.
-/

set_option autoImplicit false

namespace BundleHardening

/-- The steps of a pattern. -/
inductive Code where
  | nothing
  /-- Takes one character of the class. -/
  | one (c : Class)
  | look (condition : Look)
  /-- Takes what the preferred match of a regular pattern takes, and records its groups; the work
  records the end of that match under slot one. -/
  | whole (work : Node) (groups : List Nat)
  | seq (first second : Code)
  /-- Tries the first, and returns here to try the second. -/
  | choice (first second : Code)
  /-- Records the position under the slot. -/
  | mark (slot : Nat)
  /-- Does the body or leaves it. -/
  | optional (greedy : Bool) (body : Code)
  /-- The body any number of times. -/
  | loop (greedy : Bool) (body : Code)
  /-- The body a counted number of times; the count is kept in the register. -/
  | counted (register least : Nat) (most : Option Nat) (greedy : Bool) (body : Code)
  /-- The body any number of times from a least one on; a repetition that does not move on fails. -/
  | moving (register least : Nat) (greedy : Bool) (body : Code)
  /-- Goes on from the same position if the body matches from `back` characters before it. -/
  | around (back : Nat) (body : Code)
  /-- Goes on if the body does not match from `back` characters before the position. -/
  | aroundNot (back : Nat) (body : Code)
  /-- Gives up the choices of the body once it has matched. -/
  | atomic (body : Code)
  | backref (index : Nat)
  | ifGroup (index : Nat)
  | searchStart
  /-- Goes on with `yes` after the preferred match of the condition, or with `no`. -/
  | conditional (condition yes no : Code)
  deriving DecidableEq

namespace Code

/-- The steps in sequence. -/
def sequence : List Code → Code
  | [] => nothing
  | [code] => code
  | code :: rest => seq code (sequence rest)

/-- The choice among alternatives, in order. -/
def choices : List Code → Code
  | [] => nothing
  | [code] => code
  | code :: rest => choice code (choices rest)

/-- A bound on the number of steps between two characters. -/
def weight : Code → Nat
  | nothing | one _ | look _ | whole _ _ | mark _ | backref _ | ifGroup _ | searchStart => 1
  | seq first second => first.weight + second.weight + 1
  | choice first second => first.weight + second.weight + 1
  | optional _ body => body.weight + 2
  | loop _ body => body.weight + 2
  | counted _ least most _ body => (body.weight + 2) * (least + most.getD 0 + 2)
  | moving _ least _ body => (body.weight + 2) * (least + 3)
  | around _ body => body.weight + 2
  | aroundNot _ body => body.weight + 2
  | atomic body => body.weight + 2
  | conditional condition yes no => condition.weight + yes.weight + no.weight + 3

end Code

namespace Extended

mutual

/-- The indices of the groups in a pattern. -/
def groupIndices : Extended → List Nat
  | seq parts => allGroupIndices parts
  | alt choices => allGroupIndices choices
  | group index body => index :: groupIndices body
  | times _ _ _ body => groupIndices body
  | around _ _ body => groupIndices body
  | atomic body => groupIndices body
  | conditional condition yes no =>
    groupIndices condition ++ groupIndices yes ++ groupIndices no
  | _ => []

/-- The indices of the groups in a list of patterns. -/
def allGroupIndices : List Extended → List Nat
  | [] => []
  | part :: parts => groupIndices part ++ allGroupIndices parts

end

/-- A regular part handed over whole. -/
def handOver? (e : Extended) : Option Code :=
  match e with
  | set c => some (.one c)
  | e => e.handable?.map fun r => .whole (.seq (Node.ofRegular 0 r).1 (.mark 1)) e.groupIndices

/-- Regular parts handed over together. -/
def handOverAll? (parts : List Extended) : Option Code :=
  match parts with
  | [] => some .nothing
  | [part] => handOver? part
  | parts => handOver? (seq parts)

/-- Splits a sequence, given what each part is and the steps for it, into the plain parts at the
beginning, the parts in the middle and the parts at the end that may be handed over.  Inside a hard
context those at the end must have fixed length too. -/
def splitParts (hard : Bool) (parts : List (Extended × Shape × Option Code)) :
    List Extended × List (Option Code) × List Extended :=
  let front := parts.takeWhile fun (_, s, _) => s.isPlain
  let others := parts.dropWhile fun (_, s, _) => s.isPlain
  let atEnd : Extended × Shape × Option Code → Bool := fun (_, s, _) =>
    if hard then s.isPlain else !s.hard
  let back := (others.reverse.takeWhile atEnd).reverse
  let middle := (others.reverse.dropWhile atEnd).reverse
  (front.map (·.1), middle.map (·.2.2), back.map (·.1))

/-- The steps for a sequence. -/
def sequenceCode? (hard : Bool) (parts : List (Extended × Shape × Option Code)) : Option Code :=
  let (front, middle, back) := splitParts hard parts
  match handOverAll? front, middle.mapM id, handOverAll? back with
  | some front, some middle, some back => some (Code.sequence (front :: (middle ++ [back])))
  | _, _, _ => none

/-- The steps for a repetition, given the shape of its body. -/
def repetitionCode (register least : Nat) (most : Option Nat) (greedy : Bool) (body : Shape)
    (code : Code) : Code :=
  match least, most with
  | 0, some 1 => .optional greedy code
  | least, none =>
    if body.least == 0 then .moving register least greedy code
    else
      match least with
      | 0 => .loop greedy code
      | 1 => .seq code (.loop greedy code)
      | least => .counted register least none greedy code
  | least, most => .counted register least most greedy code

/-- The steps for a look behind or ahead; behind, the body must have a fixed length. -/
def aroundCode? (ahead positive : Bool) (body : Shape) (code : Option Code) : Option Code :=
  match ahead || body.fixed, code with
  | true, some code =>
    let back := if ahead then 0 else body.least
    some (if positive then .around back code else .aroundNot back code)
  | _, _ => none

mutual

/-- The steps for a pattern and the first register left, from the given register on.  In a hard
context, what follows may lead back into the pattern. -/
def code? (refs : List Nat) (hard : Bool) (register : Nat) (e : Extended) : Option Code × Nat :=
  let s := shape refs e
  if !hard && !s.hard then (handOver? e, register)
  else
    match e with
    | empty => (some .nothing, register)
    | set c => (some (.one c), register)
    | look condition => (some (.look condition), register)
    | seq parts =>
      let (codes, register) := codes? refs true register parts
      let shapes := parts.map (shape refs)
      (sequenceCode? hard (parts.zip (shapes.zip codes)), register)
    | alt choices =>
      let (codes, register) := codes? refs hard register choices
      ((codes.mapM id).map Code.choices, register)
    | group index body =>
      let (code, register) := code? refs hard register body
      (code.map fun code => .seq (.mark (2 * index)) (.seq code (.mark (2 * index + 1))), register)
    | times least most greedy body =>
      let deep := match least, most with
        | 0, some 1 => hard
        | _, _ => hard || s.hard
      let (code, next) := code? refs deep (register + 1) body
      (code.map (repetitionCode register least most greedy (shape refs body)), next)
    | around ahead positive (alt choices) =>
      let whole := choiceShape refs choices
      let (codes, next) := codes? refs false register choices
      if ahead || whole.fixed then
        -- the alternatives stay together
        let (code, next) :=
          if whole.hard then ((codes.mapM id).map Code.choices, next) else (handOver? (alt choices), next)
        (aroundCode? ahead positive whole code, next)
      else
        let each := (choices.zip codes).map fun (choice, code) =>
          aroundCode? false positive (shape refs choice) code
        ((each.mapM id).map (if positive then Code.choices else Code.sequence), next)
    | around ahead positive body =>
      let (code, next) := code? refs false register body
      (aroundCode? ahead positive (shape refs body) code, next)
    | backref index => (some (.backref index), register)
    | ifGroup index => (some (.ifGroup index), register)
    | atomic body =>
      let (code, register) := code? refs false register body
      (code.map .atomic, register)
    | keepOut => (some (.mark 0), register)
    | searchStart => (some .searchStart, register)
    | conditional condition yes no =>
      let (c, register) := code? refs hard register condition
      let (y, register) := code? refs hard register yes
      let (n, register) := code? refs hard register no
      match c, y, n with
      | some c, some y, some n => (some (.conditional c y n), register)
      | _, _, _ => (none, register)

/-- The steps for each of a list of patterns. -/
def codes? (refs : List Nat) (hard : Bool) (register : Nat) : List Extended →
    List (Option Code) × Nat
  | [] => ([], register)
  | part :: parts =>
    let (code, register) := code? refs hard register part
    let (codes, register) := codes? refs hard register parts
    (code :: codes, register)

end

end Extended

end BundleHardening
