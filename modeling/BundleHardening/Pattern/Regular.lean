import BundleHardening.Pattern.Class
import BundleHardening.Pattern.Look

/-!
# Regular patterns

The patterns of the linear dialect as a syntax tree.  A match prefers the left alternative, and as
many repetitions as possible unless the repetition is lazy.
-/

set_option autoImplicit false

namespace BundleHardening

/-- A pattern without look-around and back-references. -/
inductive Regular where
  /-- Matches the empty text. -/
  | empty
  /-- Matches one character of the class. -/
  | set (c : Class)
  /-- Matches the empty text where the condition holds. -/
  | look (condition : Look)
  /-- Records what the body matches under an index. -/
  | group (index : Nat) (body : Regular)
  | seq (first second : Regular)
  | alt (first second : Regular)
  /-- At least `least` and at most `most` repetitions; without `most` any number. -/
  | times (least : Nat) (most : Option Nat) (greedy : Bool) (body : Regular)
  deriving DecidableEq, Repr

namespace Regular

/-- Whether the pattern can match the empty text, conditions aside. -/
def nullable : Regular → Bool
  | empty => true
  | set _ => false
  | look _ => true
  | group _ body => body.nullable
  | seq first second => first.nullable && second.nullable
  | alt first second => first.nullable || second.nullable
  | times least _ _ body => least == 0 || body.nullable

/-- Whether the pattern can match nothing but the empty text. -/
def onlyEmpty : Regular → Bool
  | empty => true
  | set _ => false
  | look _ => true
  | group _ body => body.onlyEmpty
  | seq first second => first.onlyEmpty && second.onlyEmpty
  | alt first second => first.onlyEmpty && second.onlyEmpty
  | times _ most _ body => most == some 0 || body.onlyEmpty

/-- The sequence of a list of patterns. -/
def sequence : List Regular → Regular
  | [] => empty
  | [a] => a
  | a :: rest => seq a (sequence rest)

/-- The alternation of a list of patterns, the first preferred. -/
def alternation : List Regular → Regular
  | [] => empty
  | [a] => a
  | a :: rest => alt a (alternation rest)

/-- A repetition in its simplest form: repeating what matches only the empty text once is enough,
no repetition is the empty pattern, and exactly one is the body. -/
def repeated (least : Nat) (most : Option Nat) (greedy : Bool) (body : Regular) : Regular :=
  let bounds := if body.onlyEmpty then (min least 1, some (min (most.getD 1) 1)) else (least, most)
  if bounds == (0, some 0) then empty
  else if bounds == (1, some 1) then body
  else times bounds.1 bounds.2 greedy body

/-- The greatest group index in the pattern. -/
def lastGroup : Regular → Nat
  | empty | set _ | look _ => 0
  | group index body => max index body.lastGroup
  | seq first second | alt first second => max first.lastGroup second.lastGroup
  | times _ _ _ body => body.lastGroup

end Regular

end BundleHardening
