import BundleHardening.Pattern.Backtrack
import BundleHardening.Pattern.Extended.Reader
import BundleHardening.Pattern.Literal
import BundleHardening.Pattern.Regular.Reader

/-!
# Patterns ready to match

A pattern is read in one of two dialects.  The linear one is matched in one pass and always answers;
the extended one is matched by trial under a limit and may be aborted.  Which dialect a written
pattern is in is told from the signs it contains.
-/

set_option autoImplicit false

namespace BundleHardening

/-- The two ways of matching. -/
inductive Engine where
  | linear
  | backtracking
  deriving DecidableEq, Repr

/-- The name of the way of matching. -/
def Engine.label : Engine → String
  | linear => "linear"
  | backtracking => "backtracking"

/-- Why a pattern gives no answer. -/
inductive PatternError where
  /-- The written text is no pattern of the dialect. -/
  | unreadable (engine : Engine)
  /-- The search went beyond its limits. -/
  | aborted
  /-- A match begins before the end of the one in front of it, so that the text between them cannot be cut
  out: replacing panics. -/
  | overlapping
  deriving DecidableEq, Repr

/-- The wording of the error; for a panic, what the program says when it goes down. -/
def PatternError.message : PatternError → String
  | unreadable .linear => "regex compile error"
  | unreadable .backtracking => "fancy_regex compile error"
  | aborted => "fancy_regex execution error"
  | overlapping => "begin <= end when slicing"

/-- A match: where it begins and ends, and the parts its groups matched, from group one on. -/
structure Found where
  first : Cursor
  last : Cursor
  groups : List (Option (Cursor × Cursor))

/-- What a search comes to. -/
inductive Sighting where
  | found (f : Found)
  | nowhere
  | aborted

/-- The form in which a pattern is run. -/
inductive Matcher where
  | threads (work : Node)
  | trials (code : Code) (registers : Nat)

/-- A pattern ready to match, with the number of its groups, the whole match included. -/
structure Pattern where
  written : Text
  engine : Engine
  groups : Nat
  matcher : Matcher

namespace Pattern

/-- The signs of constructs that only the extended dialect has. -/
def extendedSigns : List String :=
  ["(?=", "(?!", "(?<=", "(?<!", "(?>", "*+", "++", "?+", "\x7d+"]

/-- Whether a backslash followed by a digit other than zero stands in the text. -/
def holdsReference : Text → Bool
  | '\\' :: c :: t => (c.isDigit && c != '0') || holdsReference (c :: t)
  | _ :: t => holdsReference t
  | [] => false

/-- Whether the written pattern shows a sign of the extended dialect. -/
def needsBacktracking (t : Text) : Bool :=
  extendedSigns.any (fun sign => Text.holds sign.toList t) || holdsReference t

/-- A regular pattern, ready to be matched in one pass. -/
def ofRegular (written : Text) (engine : Engine) (r : Regular) : Pattern where
  written := written
  engine := engine
  groups := r.lastGroup + 1
  matcher := .threads (Node.ofPattern r)

/-- Reads a pattern of the linear dialect. -/
def linear? (t : Text) : Except PatternError Pattern :=
  match Regular.ofText? t with
  | some r => .ok (ofRegular t .linear r)
  | none => .error (.unreadable .linear)

/-- Reads a pattern of the extended dialect.  One that turns out to be regular is matched in one
pass. -/
def backtracking? (t : Text) : Except PatternError Pattern :=
  let unreadable : Except PatternError Pattern := .error (.unreadable .backtracking)
  match Extended.ofText? t with
  | none => unreadable
  | some (e, groups, refs) =>
    if (e.shape refs).hard then
      match e.code? refs true 0 with
      | (some code, registers) =>
        .ok { written := t, engine := .backtracking, groups := groups,
              matcher := .trials code registers }
      | (none, _) => unreadable
    else
      match e.handable? with
      | some r => .ok (ofRegular t .backtracking r)
      | none => unreadable

/-- Reads a pattern in the dialect that its signs tell. -/
def ofText (t : Text) : Except PatternError Pattern :=
  if needsBacktracking t then backtracking? t else linear? t

/-- The pattern that matches exactly the given text. -/
def literal (t : Text) : Except PatternError Pattern :=
  linear? t.escape

/-- The span recorded for a group. -/
def spanOf (marks : Marks) (index : Nat) : Option (Cursor × Cursor) :=
  match marks.at? (2 * index), marks.at? (2 * index + 1) with
  | some first, some last => some (first, last)
  | _, _ => none

/-- The match with the given spans, whose first is the whole match. -/
def foundOf (groups : Nat) (span : Nat → Option (Cursor × Cursor)) : Sighting :=
  match span 0 with
  | some (first, last) => .found ⟨first, last, (List.range (groups - 1)).map fun i => span (i + 1)⟩
  | none => .nowhere

/-- The first match at or after the position. -/
def find (p : Pattern) (start : Cursor) : Sighting :=
  match p.matcher with
  | .threads work =>
    match Search.run work false start with
    | some marks => foundOf p.groups (spanOf marks)
    | none => .nowhere
  | .trials code registers =>
    match Trial.search code p.groups registers start with
    | .matched r => foundOf p.groups r.capped.group?
    | .unmatched => .nowhere
    | .aborted => .aborted

end Pattern

end BundleHardening
