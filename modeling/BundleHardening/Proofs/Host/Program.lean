import BundleHardening.Host.Machine

/-!
# What a program prints

A program that never asks for anything to be printed leaves what was printed before as it was, on every
machine.
-/

set_option autoImplicit false

namespace BundleHardening

/-- What was printed on a channel so far. -/
def Machine.prints (m : Machine) : Channel → Text
  | .output => m.output
  | .diagnostics => m.diagnostics

/-- A change of the files prints nothing. -/
theorem Machine.prints_changed (m : Machine) (r : Except FileError FileTree) (channel : Channel) :
    (m.changed r).1.prints channel = m.prints channel := by
  cases r <;> cases channel <;> rfl

/-- Writing a file anew, also one that breaks off, changes the machine as writing some bytes does. -/
theorem Machine.exists_written_eq (m : Machine) (p : Path) (content : ByteArray) :
    ∃ bytes, (m.written p content).1 = (m.changed (m.files.write m.directory p bytes)).1 := by
  rw [written]
  cases m.faultAt? p content with
  | none => exact ⟨content, rfl⟩
  | some fault => exact ⟨content.extract 0 fault.taken, rfl⟩

/-- Writing a file anew prints nothing. -/
theorem Machine.prints_written (m : Machine) (p : Path) (content : ByteArray) (channel : Channel) :
    (m.written p content).1.prints channel = m.prints channel := by
  obtain ⟨bytes, hwritten⟩ := m.exists_written_eq p content
  rw [hwritten]
  exact m.prints_changed _ channel

namespace Program

variable {α β : Type} {p : Program α} {f : α → Program β}

/-- One program after another, as a bind. -/
theorem bind_eq (p : Program α) (f : α → Program β) : p >>= f = p.andThen f :=
  rfl

/-- The second of two programs runs on the machine that the first one leaves. -/
theorem run_andThen (p : Program α) (f : α → Program β) (m : Machine) :
    (p.andThen f).run m = (f (p.run m).2).run (p.run m).1 := by
  induction p generalizing m with
  | done a => rfl
  | print channel t next ih => exact ih _
  | writeOutput t next ih => exact ih _ _
  | readFile p next ih => exact ih _ _
  | writeFile p content next ih => exact ih _ _
  | appendFile p content next ih => exact ih _ _
  | makeDirectories p next ih => exact ih _ _
  | isThere p next ih => exact ih _ _
  | readInput most next ih => exact ih _ _
  | seconds next ih => exact ih _ _
  | microseconds next ih => exact ih _ _

/-- Whether a program prints nothing, whatever its host answers. -/
def Silent : Program α → Prop
  | done _ => True
  | print _ _ _ | writeOutput _ _ => False
  | readFile _ next => ∀ r, (next r).Silent
  | writeFile _ _ next => ∀ r, (next r).Silent
  | appendFile _ _ next => ∀ r, (next r).Silent
  | makeDirectories _ next => ∀ r, (next r).Silent
  | isThere _ next => ∀ r, (next r).Silent
  | readInput _ next => ∀ r, (next r).Silent
  | seconds next => ∀ r, (next r).Silent
  | microseconds next => ∀ r, (next r).Silent

namespace Silent

/-- A program that ends at once prints nothing. -/
theorem pure (a : α) : (Pure.pure a : Program α).Silent :=
  trivial

/-- Two silent programs, one after the other, are silent. -/
theorem andThen (hp : p.Silent) (hf : ∀ a, (f a).Silent) : (p.andThen f).Silent := by
  induction p with
  | done a => exact hf a
  | print | writeOutput => exact hp.elim
  | readFile p next ih => exact fun r => ih r (hp r)
  | writeFile p content next ih => exact fun r => ih r (hp r)
  | appendFile p content next ih => exact fun r => ih r (hp r)
  | makeDirectories p next ih => exact fun r => ih r (hp r)
  | isThere p next ih => exact fun r => ih r (hp r)
  | readInput most next ih => exact fun r => ih r (hp r)
  | seconds next ih => exact fun r => ih r (hp r)
  | microseconds next ih => exact fun r => ih r (hp r)

/-- A silent program leaves what was printed as it was. -/
theorem prints_run (hp : p.Silent) (m : Machine) (channel : Channel) :
    (p.run m).1.prints channel = m.prints channel := by
  induction p generalizing m with
  | done a => rfl
  | print | writeOutput => exact hp.elim
  | readFile p next ih => exact ih _ (hp _) m
  | writeFile p content next ih => exact (ih _ (hp _) _).trans (m.prints_written p content channel)
  | appendFile p content next ih => exact (ih _ (hp _) _).trans (m.prints_changed _ channel)
  | makeDirectories p next ih =>
    refine (ih _ (hp _) _).trans ?_
    cases channel <;> rfl
  | isThere p next ih => exact ih _ (hp _) m
  | readInput most next ih => exact ih _ (hp _) m
  | seconds next ih => exact ih _ (hp _) m
  | microseconds next ih => exact ih _ (hp _) m

end Silent

end Program

end BundleHardening
