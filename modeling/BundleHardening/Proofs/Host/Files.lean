import BundleHardening.Proofs.File.Tree
import BundleHardening.Proofs.Host.Program

/-!
# What programs read and write

Reading a file leaves the machine as it is.  A file that was opened is found again at the same place, so that
what is written behind it stands behind all that was written there before.  A file that breaks off what is
written to it never holds all of it.
-/

set_option autoImplicit false

namespace BundleHardening

/-! ## Text and bytes -/

namespace Text

/-- The bytes of two texts stand one behind the other. -/
theorem toBytes_append (s t : Text) : toBytes (s ++ t) = toBytes s ++ toBytes t := by
  simp [toBytes]

/-- The empty text has no bytes. -/
theorem toBytes_nil : toBytes [] = .empty := by
  simp [toBytes]

/-- Texts with the same bytes are the same. -/
theorem toBytes_inj {s t : Text} : toBytes s = toBytes t ↔ s = t := by
  rw [toBytes, toBytes, String.toUTF8, String.toUTF8, String.toByteArray_inj, String.ofList_inj]

end Text

/-! ## Reading -/

/-- The text of a file. -/
def Machine.text (m : Machine) (p : Path) : Except FileError Text :=
  match m.files.read m.directory p with
  | .error e => .error e
  | .ok bytes =>
    match Text.ofBytes? bytes with
    | some t => .ok t
    | none => .error .notText

/-- A program that reads a text is answered with the text of the file. -/
theorem Program.run_readText (m : Machine) (p : Path) : (readText p).run m = (m, m.text p) := by
  rw [readText, run, Machine.text]
  cases m.files.read m.directory p with
  | error e => rfl
  | ok bytes =>
    dsimp only
    cases Text.ofBytes? bytes <;> rfl

/-! ## Writing -/

namespace WriteFault

/-- The bytes before a write breaks off are not all. -/
theorem extract_ne {content : ByteArray} (fault : WriteFault content.size) :
    content.extract 0 fault.taken ≠ content := by
  intro h
  have hsize := congrArg ByteArray.size h
  have hlt := fault.taken.isLt
  rw [ByteArray.size_extract] at hsize
  omega

/-- The characters before the output breaks off are not all. -/
theorem take_ne {t : Text} (fault : WriteFault t.length) : t.take fault.taken ≠ t := by
  intro h
  have hlength := congrArg List.length h
  have hlt := fault.taken.isLt
  rw [List.length_take] at hlength
  omega

end WriteFault

namespace Machine

variable {m : Machine} {p : Path} {l : Location} {content old : ByteArray}

/-- Whether a path opens the file at a location, which is there and holds the content. -/
structure Opens (m : Machine) (p : Path) (l : Location) (content : ByteArray) : Prop where
  opens : m.files.openFile m.directory p = .ok (l, content)
  holds : m.files.node? l = some (.file content)

/-- The machine with a file written. -/
def withFile (m : Machine) (l : Location) (content : ByteArray) : Machine :=
  { m with files := m.files.put l (.file content) }

/-- A file that is written is open for more. -/
theorem opens_withFile (h : m.files.openFile m.directory p = .ok (l, old)) (content : ByteArray) :
    (m.withFile l content).Opens p l content := by
  obtain ⟨o, -, -, rfl, -⟩ := FileTree.of_openFile h
  exact ⟨FileTree.openFile_put h, FileTree.node?_put_self (List.cons_ne_nil _ _)⟩

/-- A file that cannot be opened is not written. -/
theorem written_of_error {e : FileError} (h : m.files.openFile m.directory p = .error e) :
    m.written p content = (m, .error e) := by
  rw [written, faultAt?, h, FileTree.write, h]
  rfl

/-- A file that takes all that is written to it holds it. -/
theorem written_of_ok (h : m.files.openFile m.directory p = .ok (l, old))
    (hfault : m.fileFault? l content = none) : m.written p content = (m.withFile l content, .ok ()) := by
  have hat : m.faultAt? p content = m.fileFault? l content := by rw [faultAt?, h]
  rw [written, hat, hfault]
  dsimp only
  rw [FileTree.write_of_openFile h]
  rfl

/-- A file that breaks off holds what it took. -/
theorem written_of_fault {fault : WriteFault content.size} (h : m.files.openFile m.directory p = .ok (l, old))
    (hfault : m.fileFault? l content = some fault) :
    m.written p content = (m.withFile l (content.extract 0 fault.taken), .error fault.error) := by
  have hat : m.faultAt? p content = m.fileFault? l content := by rw [faultAt?, h]
  rw [written, hat, hfault]
  dsimp only
  rw [FileTree.write_of_openFile h]
  rfl

end Machine

namespace Program

variable {α : Type} {m : Machine} {p : Path} {l : Location} {old : ByteArray}

/-- A program that writes behind an open file goes on behind what it wrote. -/
theorem run_appendFile (h : m.files.openFile m.directory p = .ok (l, old)) (content : ByteArray)
    (next : Except FileError Unit → Program α) :
    (appendFile p content next).run m = (next (.ok ())).run (m.withFile l (old ++ content)) := by
  rw [run, FileTree.append_of_openFile h]
  rfl

end Program

end BundleHardening
