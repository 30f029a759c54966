import BundleHardening.Rewrite.Event

/-!
# Runs

A run is a computation that leaves events and ends in a value or in an error.  A run that follows
another begins only if that one ended in a value.  A run that panics does not end: it leaves an event
that says so, and the error in its place is there to keep anything from following.
-/

set_option autoImplicit false

namespace BundleHardening

/-- The events of a computation, in order, and what it ends in. -/
structure Run (α : Type) where
  events : List Event
  result : Except RewriteError α

namespace Run

variable {α β : Type}

/-- Ends at once in a value. -/
def done (a : α) : Run α :=
  ⟨[], .ok a⟩

/-- Ends at once in an error. -/
def fail (e : RewriteError) : Run α :=
  ⟨[], .error e⟩

/-- Leaves one event. -/
def note (e : Event) : Run Unit :=
  ⟨[e], .ok ()⟩

/-- Goes on with the value of the first run. -/
def andThen (r : Run α) (f : α → Run β) : Run β :=
  match r.result with
  | .ok a => ⟨r.events ++ (f a).events, (f a).result⟩
  | .error e => ⟨r.events, .error e⟩

instance : Monad Run where
  pure := done
  bind := andThen

/-- Ends in the error of the other run's place, whatever this run ended in. -/
def failingWith (r : Run α) (e : RewriteError) : Run β :=
  ⟨r.events, .error e⟩

/-- Panics in the course of the rule that the error names, whatever this run ended in. -/
def panicking (r : Run α) (e : RewriteError) : Run β :=
  ⟨r.events ++ [.panicked e.rule], .error e⟩

/-- Whether the run panics. -/
def panics (r : Run α) : Bool :=
  r.events.any (·.level = .panic)

/-- Runs the computation for each member of a list, up to the first error. -/
def each (f : α → Run β) : List α → Run (List β)
  | [] => done []
  | a :: rest => andThen (f a) fun b => andThen (each f rest) fun bs => done (b :: bs)

/-- Fills the position of a rule into the error that a run ended in.  An error without a position
leaves an event with the text given to the rule set. -/
def placed (r : Run α) (rule : String) (index : Nat) (source : Text) : Run α :=
  match r.result with
  | .ok _ => r
  | .error e =>
    if e.isUnplaced then
      let e := e.placed index source
      ⟨r.events ++ [.refused rule index e source], .error e⟩
    else r

end Run

end BundleHardening
