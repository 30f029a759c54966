import BundleHardening.File.Tree
import BundleHardening.Host.Program

/-!
# A machine that programs run on

The machine holds what a program can ask for and what it leaves behind: the files, the input, what was
printed, and the two clocks.

A file that could be opened may still break off what is written to it, and so may the output: a disk is
full, or nobody reads any more.  What the machine says of such faults goes for writes whose outcome a program
learns.  It takes what is appended to an open file and what is merely printed.
-/

set_option autoImplicit false

namespace BundleHardening

/-- A write of so many units that breaks off: how many of them were taken, which is not all, and why. -/
structure WriteFault (size : Nat) where
  taken : Fin size
  error : FileError

/-- What a program runs on. -/
structure Machine where
  files : FileTree := {}
  /-- The working directory, at which a path that is not absolute begins. -/
  directory : Location := []
  input : ByteArray := .empty
  output : Text := []
  diagnostics : Text := []
  seconds : Nat := 0
  microseconds : Nat := 0
  /-- The fault of the file at a location, once it is open, with the bytes that are written to it. -/
  fileFault? : Location → (content : ByteArray) → Option (WriteFault content.size) := fun _ _ => none
  /-- The fault of the output with the characters that are printed on it. -/
  outputFault? : (t : Text) → Option (WriteFault t.length) := fun _ => none

namespace Machine

variable {α : Type}

/-- The machine after a change of its files, and whether the change was made. -/
def changed (m : Machine) : Except FileError FileTree → Machine × Except FileError Unit
  | .ok files => ({ m with files := files }, .ok ())
  | .error e => (m, .error e)

/-- The machine with a text printed. -/
def printed (m : Machine) : Channel → Text → Machine
  | .output, t => { m with output := m.output ++ t }
  | .diagnostics, t => { m with diagnostics := m.diagnostics ++ t }

/-- The fault of a file that is written anew, if it can be opened. -/
def faultAt? (m : Machine) (p : Path) (content : ByteArray) : Option (WriteFault content.size) :=
  match m.files.openFile m.directory p with
  | .ok (l, _) => m.fileFault? l content
  | .error _ => none

/-- The machine with a file written anew, and whether it could be opened and took the bytes.  A file that
breaks off holds the bytes before. -/
def written (m : Machine) (p : Path) (content : ByteArray) : Machine × Except FileError Unit :=
  match m.faultAt? p content with
  | none => m.changed (m.files.write m.directory p content)
  | some fault =>
    ((m.changed (m.files.write m.directory p (content.extract 0 fault.taken))).1, .error fault.error)

/-- The machine with a text printed on the output, and whether the output took it.  Where it breaks off, the
characters before are printed. -/
def outputWritten (m : Machine) (t : Text) : Machine × Except FileError Unit :=
  match m.outputFault? t with
  | none => (m.printed .output t, .ok ())
  | some fault => (m.printed .output (t.take fault.taken), .error fault.error)

end Machine

namespace Program

variable {α : Type}

/-- Runs a program on a machine: the machine afterwards, and the value that the program ends in. -/
def run (m : Machine) : Program α → Machine × α
  | done a => (m, a)
  | readFile p next => (next (m.files.read m.directory p)).run m
  | writeFile p content next =>
    let (m, r) := m.written p content
    (next r).run m
  | appendFile p content next =>
    let (m, r) := m.changed (m.files.append m.directory p content)
    (next r).run m
  | makeDirectories p next =>
    let (files, r) := m.files.makeDirectories m.directory p
    (next r).run { m with files := files }
  | isThere p next => (next (m.files.leadsSomewhere m.directory p)).run m
  | readInput most next => (next (m.input.extract 0 most)).run m
  | print channel t next => next.run (m.printed channel t)
  | writeOutput t next =>
    let (m, r) := m.outputWritten t
    (next r).run m
  | seconds next => (next m.seconds).run m
  | microseconds next => (next m.microseconds).run m

end Program

end BundleHardening
