import BundleHardening.CommandLine.Help
import BundleHardening.CommandLine.Listing
import BundleHardening.Hook.Answer
import BundleHardening.Hook.RefusalBox
import BundleHardening.Settings.Document
import BundleHardening.Settings.Layers

/-!
# Running a command

The arguments are read, the settings are loaded, and the command is carried out.  The exit code is 0
when it succeeds, 1 when it fails or a chunk is refused, and 2 when the arguments, the settings or the
input cannot be read.
-/

set_option autoImplicit false

namespace BundleHardening.CommandLine

/-! ## Answering a build step -/

/-- How chunks are taken from a build step. -/
def Setting.intake (s : Setting) : Intake where
  limit := s.settings.hook.maxInputBytes
  defaultName := s.settings.rewrite.defaultChunkName
  hardener := { declares := s.settings.rewrite.declares }

/-- Prints and records what became of a chunk. -/
def finish (s : Setting) (journal : Option Journal) (d : Delivery) (start : Nat) : Program Nat :=
  match d.result with
  | .ok output =>
    Program.microseconds fun stop => do
      match journal with
      | some j => j.addRewritten d.label (RenderReport.of d.source output) (stop - start)
      | none => pure ()
      Program.line d.line
      pure 0
  | .error e => do
    match journal with
    | some j => j.addRefused d.label (Text.byteSize d.source) e
    | none => pure ()
    Program.line d.line
    Program.print .diagnostics (RefusalBox.render s.colours e d.label) (pure 1)

/-- Prints why no chunk was read. -/
def unread (e : ReadError) : Program Nat := do
  Program.complain ("bpg: ".toList ++ e.message.toList)
  pure 2

/-- Answers a build step. -/
def answer (s : Setting) : Program Nat :=
  let i := s.intake
  Program.readInput (i.limit + 1).toNat fun bytes =>
    match Message.readFrom bytes i.limit with
    | .error e => unread e
    | .ok m =>
      if m.source.isNone then unread .missingSource
      else do
        let journal ← Journal.open? s.settings.journal s.environment
        Program.microseconds fun start =>
          match i.deliver m with
          | .error e => unread e
          | .ok d => finish s journal d start

/-! ## Settings -/

/-- Writes the sample of settings to a file. -/
def writeSample (p : Path) : Program (Except Text Unit) := do
  let above ← match p.parent? with
    | some directory => Program.makeDirectories directory .done
    | none => pure (.ok ())
  match above with
  | .error e => pure (.error e.message.toList)
  | .ok () =>
    match ← Program.writeText p Settings.sample with
    | .error e => pure (.error e.message.toList)
    | .ok () =>
      Program.line ("Configuration written to: ".toList ++ p)
      pure (.ok ())

/-- Prints the sample of settings, or writes it to a file; one that is there is only written over if
asked for. -/
def giveSample (destination : Option Path) (force : Bool) : Program (Except Text Unit) :=
  match destination with
  | none => do
    Program.line Settings.sample
    pure (.ok ())
  | some p =>
    Program.isThere p fun found =>
      if found && !force then
        pure (.error ("File exists: ".toList ++ p ++ ". Use --force to overwrite.".toList))
      else writeSample p

/-- The line on a file of settings, if it is there. -/
def sourceLine (label : String) : Option Path → Program Unit
  | none => pure ()
  | some p =>
    Program.isThere p fun found =>
      if found then Program.line ("  - ".toList ++ label.toList ++ ": ".toList ++ p) else pure ()

/-- Prints the settings and the files that they come from. -/
def showSettings (s : Setting) : Program (Except Text Unit) := do
  Program.line "Current configuration:".toList
  Program.line []
  Program.line "Config sources (lowest → highest priority):".toList
  sourceLine "system" (some Settings.systemFile)
  sourceLine "user" (Settings.userFile? s.environment)
  match ← Settings.findProjectFile s.environment.directory with
  | some p => Program.line ("  - project: ".toList ++ p)
  | none => pure ()
  Program.line []
  Program.line s.settings.document
  pure (.ok ())

/-! ## Commands -/

/-- Carries out a command other than an answer. -/
def carryOut (s : Setting) : Command → Program (Except Text Unit)
  | .answer => pure (.ok ())
  | .rewrite r => r.run s
  | .check files chunkName format => check s files chunkName format
  | .rules choice verbose => do
    printLines (listing s.colours verbose choice)
    pure (.ok ())
  | .sample destination force => giveSample destination force
  | .settings => showSettings s

/-- Carries out a command; a failure is printed. -/
def execute (s : Setting) : Command → Program Nat
  | .answer => answer s
  | c => do
    match ← carryOut s c with
    | .ok () => pure 0
    | .error message =>
      Program.complain
        (Terminal.paint s.colours (Terminal.Style.of .red).bold "Error:".toList ++ [' '] ++ message)
      pure 1

/-- Whether colours are on: always, never, or where a terminal takes them. -/
def coloursOn (color : String) (terminal : Bool) : Bool :=
  if color = "always" then true
  else if color = "never" then false
  else terminal

/-- Carries out what the arguments ask for. -/
def invoke (env : Environment) (i : Invocation) : Program Nat := do
  match ← Settings.load env i.settingsFile with
  | .error e =>
    Program.complain ("Error: ".toList ++ e.message)
    pure 2
  | .ok settings =>
    execute ⟨env, settings, coloursOn settings.general.color env.terminal⟩ i.command

/-- The version of the program. -/
def versionNumber : String := "0.1.0"

/-- Prints the version for a reader. -/
def showVersion (colours : Bool) : Program Nat := do
  Program.complain
    (Terminal.paint colours (Terminal.Style.of .cyan).bold "bpg".toList ++ [' '] ++
      Terminal.paint colours (Terminal.Style.of .white).bold ("v" ++ versionNumber).toList)
  Program.complain
    (Terminal.paint colours (.of .brightBlack)
      "Bootstrap pollution guard for webpack output".toList)
  pure 0

/-- Runs the program with its arguments: the exit code. -/
def run (env : Environment) (arguments : List Text) : Program Nat :=
  if arguments = ["--version".toList] ∨ arguments = ["-V".toList] then showVersion env.terminal
  else
    match read arguments with
    | .run i => invoke env i
    | .help topic => Program.print .output topic.page (pure 0)
    | .version => do
      Program.line ("bpg " ++ versionNumber).toList
      pure 0
    | .wrong => do
      Program.complain "error: invalid arguments\n\nFor more information, try '--help'.".toList
      pure 2

end BundleHardening.CommandLine
