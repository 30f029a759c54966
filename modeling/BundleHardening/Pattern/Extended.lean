import BundleHardening.Pattern.Room

/-!
# Extended patterns

The patterns of the backtracking dialect: regular ones together with look-around, back-references,
atomic groups, conditionals, and the two marks that move the reported start of a match and tie it to
the position where the search began.

Sequences and alternations are kept as lists, as they were written: which parts of a sequence can be
handed over to the matcher for regular patterns depends on their place in it.
-/

set_option autoImplicit false

namespace BundleHardening

/-- A pattern of the backtracking dialect. -/
inductive Extended where
  | empty
  | set (c : Class)
  | look (condition : Look)
  | seq (parts : List Extended)
  | alt (choices : List Extended)
  | group (index : Nat) (body : Extended)
  | times (least : Nat) (most : Option Nat) (greedy : Bool) (body : Extended)
  /-- The text ahead of, or behind, the position does (or does not) match the body. -/
  | around (ahead positive : Bool) (body : Extended)
  /-- The text that the group matched last. -/
  | backref (index : Nat)
  /-- Matches the empty text when the group has matched. -/
  | ifGroup (index : Nat)
  /-- Only the preferred match of the body counts. -/
  | atomic (body : Extended)
  /-- The reported match begins here. -/
  | keepOut
  /-- The search began here. -/
  | searchStart
  | conditional (condition yes no : Extended)

namespace Extended

/-- The shortest length of a match, whether every match has that length, and whether the pattern is
beyond the matcher for regular patterns. -/
structure Shape where
  least : Nat
  fixed : Bool
  hard : Bool

/-- A regular part of fixed length. -/
def Shape.isPlain (s : Shape) : Bool :=
  s.fixed && !s.hard

/-- The shape of parts in sequence. -/
def Shape.join (a b : Shape) : Shape where
  least := a.least + b.least
  fixed := a.fixed && b.fixed
  hard := a.hard || b.hard

/-- The shape of two alternatives. -/
def Shape.either (a b : Shape) : Shape where
  least := min a.least b.least
  fixed := a.fixed && b.fixed && a.least == b.least
  hard := a.hard || b.hard

mutual

/-- The shape of a pattern, given the groups that are referred back to. -/
def shape (refs : List Nat) : Extended → Shape
  | empty => ⟨0, true, false⟩
  | set _ => ⟨1, true, false⟩
  | look condition => ⟨0, true, condition.isBoundary⟩
  | seq parts => sequenceShape refs parts
  | alt choices => choiceShape refs choices
  | group index body =>
    let s := shape refs body
    { s with hard := s.hard || refs.contains index }
  | times least most _ body =>
    let s := shape refs body
    { s with least := s.least * least, fixed := s.fixed && most == some least }
  | around _ _ _ => ⟨0, true, true⟩
  | backref _ => ⟨0, false, true⟩
  | ifGroup _ => ⟨0, true, true⟩
  | atomic body => { shape refs body with hard := true }
  | keepOut => ⟨0, true, true⟩
  | searchStart => ⟨0, true, true⟩
  | conditional condition yes no =>
    let c := shape refs condition
    let y := shape refs yes
    let n := shape refs no
    { least := c.least + min y.least n.least
      fixed := c.fixed && y.fixed && n.fixed && c.least + y.least == n.least
      hard := true }

/-- The shape of a sequence. -/
def sequenceShape (refs : List Nat) : List Extended → Shape
  | [] => ⟨0, true, false⟩
  | part :: parts => (shape refs part).join (sequenceShape refs parts)

/-- The shape of an alternation. -/
def choiceShape (refs : List Nat) : List Extended → Shape
  | [] => ⟨0, true, false⟩
  | [choice] => shape refs choice
  | choice :: choices => (shape refs choice).either (choiceShape refs choices)

end

mutual

/-- The pattern as a regular one, when it is; the bounds of a repetition must be in order and of at
most 32 bits. -/
def regular? : Extended → Option Regular
  | empty => some .empty
  | set c => some (.set c)
  | look condition => some (.look condition)
  | seq parts => (regularParts? parts).map Regular.sequence
  | alt choices => (regularParts? choices).map Regular.alternation
  | group index body => (regular? body).map (.group index)
  | times least most greedy body =>
    if least < Nat.pow 2 32 ∧ most.all (fun m => least ≤ m && m < Nat.pow 2 32) then
      (regular? body).map (Regular.repeated least most greedy)
    else none
  | _ => none

/-- The patterns as regular ones, when all are. -/
def regularParts? : List Extended → Option (List Regular)
  | [] => some []
  | part :: parts => do
    let first ← regular? part
    let others ← regularParts? parts
    pure (first :: others)

end

/-- The pattern as a regular one that can be handed over: one that keeps to the limit on room. -/
def handable? (e : Extended) : Option Regular :=
  e.regular?.filter Regular.fits

mutual

/-- Checks that every back-reference is to a group opened before it; `opened` counts the groups
opened so far, the whole match included, and the count after the pattern is given back. -/
def countGroups? (opened : Nat) : Extended → Option Nat
  | seq parts => countAllGroups? opened parts
  | alt choices => countAllGroups? opened choices
  | group _ body => countGroups? (opened + 1) body
  | times _ _ _ body => countGroups? opened body
  | around _ _ body => countGroups? opened body
  | atomic body => countGroups? opened body
  | backref index => if index < opened then some opened else none
  | ifGroup index => if index < opened then some opened else none
  | conditional condition yes no =>
    match countGroups? opened condition with
    | none => none
    | some opened =>
      match countGroups? opened yes with
      | none => none
      | some opened => countGroups? opened no
  | _ => some opened

/-- The same for patterns one after the other. -/
def countAllGroups? (opened : Nat) : List Extended → Option Nat
  | [] => some opened
  | part :: parts =>
    match countGroups? opened part with
    | none => none
    | some opened => countAllGroups? opened parts

end

end Extended

end BundleHardening
