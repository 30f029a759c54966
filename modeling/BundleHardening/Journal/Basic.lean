import BundleHardening.Host.Environment
import BundleHardening.Host.Program
import BundleHardening.Journal.Entry
import BundleHardening.Journal.Timestamp

/-!
# The journal

The journal is a file to which one line is added for each chunk that is rewritten or refused, if the
settings ask for it.  A file that cannot be opened leaves the journal without one; it never stops a
rewrite.
-/

set_option autoImplicit false

namespace BundleHardening

/-- How entries are written. -/
inductive EntryFormat where
  | text
  | json
  deriving DecidableEq, Repr

/-- The name of the format. -/
def EntryFormat.name : EntryFormat → String
  | text => "text"
  | json => "json"

/-- Which chunks get an entry. -/
structure EventFilter where
  success : Bool := false
  failure : Bool := true
  deriving DecidableEq, Repr

/-- What the settings say about the journal. -/
structure JournalSettings where
  enabled : Bool := false
  file : Option Text := none
  format : EntryFormat := .text
  events : EventFilter := {}
  deriving DecidableEq, Repr

/-- A journal that entries can be added to. -/
structure Journal where
  format : EntryFormat
  events : EventFilter
  file : Option Path

namespace Journal

/-- Opens the file of a journal, in a directory that is created if need be. -/
def openFile (p : Path) : Program (Except FileError Unit) := do
  let above ← match p.parent? with
    | some directory => Program.makeDirectories directory .done
    | none => pure (.ok ())
  match above with
  | .error e => pure (.error e)
  | .ok () => Program.appendFile p .empty .done

/-- Opens the journal that the settings ask for. -/
def open? (s : JournalSettings) (env : Environment) : Program (Option Journal) :=
  if s.enabled then
    match s.file with
    | none => pure (some ⟨s.format, s.events, none⟩)
    | some given => do
      let p := env.expandHome given
      let file := match ← openFile p with
        | .ok () => some p
        | .error _ => none
      pure (some ⟨s.format, s.events, file⟩)
  else pure none

/-- The line of an entry, without its end. -/
def line (j : Journal) (e : Entry) : Text :=
  match j.format with
  | .text => e.textLine
  | .json => e.jsonLine

/-- Adds an entry. -/
def add (j : Journal) (e : Entry) : Program Unit :=
  match j.file with
  | some p => Program.appendFile p (Text.toBytes (j.line e ++ ['\n'])) fun _ => pure ()
  | none => pure ()

/-- Adds the entry of a chunk that was rewritten, if such entries are asked for. -/
def addRewritten (j : Journal) (chunk : String) (report : RenderReport) (microseconds : Nat) :
    Program Unit :=
  if j.events.success then
    Program.seconds fun now => j.add (.rewritten (Timestamp.ofSeconds now) chunk report microseconds)
  else pure ()

/-- Adds the entry of a chunk that was refused, if such entries are asked for. -/
def addRefused (j : Journal) (chunk : String) (inputBytes : Nat) (e : RewriteError) : Program Unit :=
  if j.events.failure then
    Program.seconds fun now => j.add (.refused (Timestamp.ofSeconds now) chunk inputBytes e)
  else pure ()

end Journal

end BundleHardening
