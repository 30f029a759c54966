import BundleHardening.Pattern.Cursor
import BundleHardening.Pattern.Node

/-!
# Matching in one pass

All ways to match are followed at once, character by character, as an ordered list of threads: a
thread that comes earlier is preferred.  Two threads with the same work left have the same future,
so the later one is dropped, and the number of threads never exceeds the number of places in the
pattern.  A thread that has nothing left to do has matched, and all threads after it are given up.
-/

set_option autoImplicit false

namespace BundleHardening

/-- The recorded positions of a match in progress, latest first. -/
abbrev Marks := List (Nat × Cursor)

/-- The position recorded last under a slot. -/
def Marks.at? (marks : Marks) (slot : Nat) : Option Cursor :=
  marks.lookup slot

/-- One way to match: what is left to do and what has been recorded. -/
structure Thread where
  todo : List Node
  marks : Marks

/-- The threads at one position: those that wait for a character, and the match found if any.  The
waiting threads are all preferred to that match. -/
structure Front where
  waiting : List (Class × Thread)
  matched : Option Marks

namespace Thread

/-- The threads that a thread splits into before it takes a character, in order of preference. -/
def unfold (here : Cursor) (node : Node) (rest : List Node) (marks : Marks) : List Thread :=
  match node with
  | .nothing => [⟨rest, marks⟩]
  | .eat _ => []
  | .look condition => if condition.holds here.previous here.following then [⟨rest, marks⟩] else []
  | .mark slot => [⟨rest, (slot, here) :: marks⟩]
  | .seq first second => [⟨first :: second :: rest, marks⟩]
  | .fork _ first second => [⟨first :: rest, marks⟩, ⟨second :: rest, marks⟩]
  | .copies 0 _ => [⟨rest, marks⟩]
  | .copies (n + 1) body => [⟨body :: .copies n body :: rest, marks⟩]
  | .upTo _ 0 _ _ => [⟨rest, marks⟩]
  | .upTo label (n + 1) greedy body =>
    let again : Thread := ⟨body :: .upTo label n greedy body :: rest, marks⟩
    if greedy then [again, ⟨rest, marks⟩] else [⟨rest, marks⟩, again]
  | .loop label greedy body =>
    let again : Thread := ⟨body :: .loop label greedy body :: rest, marks⟩
    if greedy then [again, ⟨rest, marks⟩] else [⟨rest, marks⟩, again]

end Thread

namespace Front

/-- Runs the threads up to the next character.  `seen` holds the work of every thread met at this
position; `waiting` is collected in reverse. -/
def gather (here : Cursor) : (fuel : Nat) → (threads : List Thread) → (seen : List (List Node)) →
    (waiting : List (Class × Thread)) → Front
  | 0, _, _, waiting => ⟨waiting.reverse, none⟩
  | _, [], _, waiting => ⟨waiting.reverse, none⟩
  | fuel + 1, thread :: threads, seen, waiting =>
    if seen.contains thread.todo then gather here fuel threads seen waiting
    else
      match thread.todo with
      | [] => ⟨waiting.reverse, some thread.marks⟩
      | .eat c :: rest =>
        gather here fuel threads (thread.todo :: seen) ((c, ⟨rest, thread.marks⟩) :: waiting)
      | node :: rest =>
        gather here fuel (Thread.unfold here node rest thread.marks ++ threads)
          (thread.todo :: seen) waiting

/-- The threads that take the character. -/
def taking (front : Front) (c : Char) : List Thread :=
  front.waiting.filterMap fun (wanted, thread) => if wanted.contains c then some thread else none

end Front

/-- A search in progress: the work of the whole pattern, the number of places in it, whether a match
may only begin at the first position, and the best match so far. -/
structure Search where
  root : Node
  places : Nat
  anchored : Bool
  best : Option Marks

namespace Search

/-- The threads at a position, run up to the next character; twice the number of places leaves room
for every thread that a position can bring forth. -/
def front (search : Search) (here : Cursor) (threads : List Thread) : Front :=
  Front.gather here (2 * (search.places + threads.length + 2)) threads [] []

/-- Whether a match may still begin after this position. -/
def open? (search : Search) : Bool :=
  search.best.isNone && !search.anchored

/-- The search after a position with the given front. -/
def after (search : Search) (front : Front) : Search :=
  { search with best := front.matched <|> search.best }

/-- The threads of the next position.  While nothing has matched, a new thread for a match that begins
there joins after all others. -/
def moved (search : Search) (front : Front) (c : Char) : List Thread :=
  front.taking c ++ if search.open? then [⟨[search.root], []⟩] else []

/-- Follows the threads to the end of the text, or until none is left. -/
def follow (search : Search) (index : Nat) (before : List Char) (threads : List Thread) :
    (rest : Text) → Option Marks
  | [] => (search.after (search.front ⟨index, before, []⟩ threads)).best
  | c :: rest =>
    let front := search.front ⟨index, before, c :: rest⟩ threads
    let search := search.after front
    match search.moved front c with
    | [] => search.best
    | threads => follow search (index + 1) (c :: before) threads rest

/-- The marks of the preferred match that begins at the position, or when not anchored, at the first
position from there on where one begins. -/
def run (root : Node) (anchored : Bool) (start : Cursor) : Option Marks :=
  follow { root := root, places := root.places, anchored := anchored, best := none }
    start.index start.before [⟨[root], []⟩] start.rest

end Search

end BundleHardening
