import BundleHardening.Proofs.Host.Program

/-!
# What a run writes behind files

A file that was written to can be written anew in the same run, so that the files at its end do not tell what
was written behind them.  The run itself does: `Program.appended` lists it in order.  A program that only
looks leaves the machine as it is.  One that only asks which paths lead somewhere goes alike on every host that
gives the same answers.
-/

set_option autoImplicit false

namespace BundleHardening.Program

variable {α β : Type}

/-- What a run on a machine writes behind files, in order: the path of the file, and what was written. -/
def appended (m : Machine) : Program α → List (Path × ByteArray)
  | done _ => []
  | readFile p next => (next (m.files.read m.directory p)).appended m
  | writeFile p content next =>
    let (m, r) := m.written p content
    (next r).appended m
  | appendFile p content next =>
    let (m, r) := m.changed (m.files.append m.directory p content)
    (r.toOption.map fun _ => (p, content)).toList ++ (next r).appended m
  | makeDirectories p next =>
    let (files, r) := m.files.makeDirectories m.directory p
    (next r).appended { m with files := files }
  | isThere p next => (next (m.files.leadsSomewhere m.directory p)).appended m
  | readInput most next => (next (m.input.extract 0 most)).appended m
  | print channel t next => next.appended (m.printed channel t)
  | writeOutput t next =>
    let (m, r) := m.outputWritten t
    (next r).appended m
  | seconds next => (next m.seconds).appended m
  | microseconds next => (next m.microseconds).appended m

/-- What two programs write behind files, one after the other. -/
theorem appended_andThen (p : Program α) (f : α → Program β) (m : Machine) :
    (p.andThen f).appended m = p.appended m ++ (f (p.run m).2).appended (p.run m).1 := by
  induction p generalizing m with
  | done a => rfl
  | print channel t next ih => exact ih _
  | writeOutput t next ih => exact ih _ _
  | readFile p next ih => exact ih _ _
  | writeFile p content next ih => exact ih _ _
  | appendFile p content next ih =>
    simp only [andThen, appended, run, ih, List.append_assoc]
  | makeDirectories p next ih => exact ih _ _
  | isThere p next ih => exact ih _ _
  | readInput most next ih => exact ih _ _
  | seconds next ih => exact ih _ _
  | microseconds next ih => exact ih _ _

/-! ## Looking -/

/-- Whether a program neither writes nor prints, whatever its host answers. -/
def Looks : Program α → Prop
  | done _ => True
  | readFile _ next => ∀ r, (next r).Looks
  | isThere _ next => ∀ r, (next r).Looks
  | readInput _ next => ∀ r, (next r).Looks
  | seconds next => ∀ r, (next r).Looks
  | microseconds next => ∀ r, (next r).Looks
  | writeFile _ _ _ | appendFile _ _ _ | makeDirectories _ _ | print _ _ _ | writeOutput _ _ => False

namespace Looks

variable {p : Program α} {f : α → Program β}

/-- A program that ends at once looks. -/
theorem pure (a : α) : (Pure.pure a : Program α).Looks :=
  trivial

/-- Two programs that look, one after the other, look. -/
theorem andThen (hp : p.Looks) (hf : ∀ a, (f a).Looks) : (p.andThen f).Looks := by
  induction p with
  | done a => exact hf a
  | readFile p next ih => exact fun r => ih r (hp r)
  | isThere p next ih => exact fun r => ih r (hp r)
  | readInput most next ih => exact fun r => ih r (hp r)
  | seconds next ih => exact fun r => ih r (hp r)
  | microseconds next ih => exact fun r => ih r (hp r)
  | writeFile | appendFile | makeDirectories | print | writeOutput => exact hp.elim

/-- A program that looks leaves the machine as it is. -/
theorem machine_run (hp : p.Looks) (m : Machine) : (p.run m).1 = m := by
  induction p with
  | done a => rfl
  | readFile p next ih => exact ih _ (hp _)
  | isThere p next ih => exact ih _ (hp _)
  | readInput most next ih => exact ih _ (hp _)
  | seconds next ih => exact ih _ (hp _)
  | microseconds next ih => exact ih _ (hp _)
  | writeFile | appendFile | makeDirectories | print | writeOutput => exact hp.elim

/-- A program that looks writes nothing behind files. -/
theorem appended_eq_nil (hp : p.Looks) (m : Machine) : p.appended m = [] := by
  induction p with
  | done a => rfl
  | readFile p next ih => exact ih _ (hp _)
  | isThere p next ih => exact ih _ (hp _)
  | readInput most next ih => exact ih _ (hp _)
  | seconds next ih => exact ih _ (hp _)
  | microseconds next ih => exact ih _ (hp _)
  | writeFile | appendFile | makeDirectories | print | writeOutput => exact hp.elim

/-- A text is read by looking. -/
theorem readText (p : Path) : (Program.readText p).Looks := by
  intro r
  cases r with
  | error e => trivial
  | ok bytes =>
    dsimp only
    cases Text.ofBytes? bytes <;> trivial

end Looks

/-! ## Asking -/

/-- How a program goes that does nothing but ask which paths lead somewhere: after so many questions, answered
by `there`, it ends in a value. -/
inductive Asks (there : Path → Bool) : Program α → Nat → α → Prop where
  | done (a : α) : Asks there (done a) 0 a
  | isThere {p : Path} {next : Bool → Program α} {asked : Nat} {a : α}
      (h : Asks there (next (there p)) asked a) : Asks there (isThere p next) (asked + 1) a

/-- A program that only asks runs so on every machine with the same answers, and leaves it as it is. -/
theorem Asks.run {there : Path → Bool} {p : Program α} {asked : Nat} {a : α} (h : p.Asks there asked a)
    {m : Machine} (hm : ∀ p, m.files.leadsSomewhere m.directory p = there p) : p.run m = (m, a) := by
  induction h with
  | done a => rfl
  | isThere h ih =>
    rw [Program.run, hm]
    exact ih

end BundleHardening.Program
