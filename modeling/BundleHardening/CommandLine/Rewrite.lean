import BundleHardening.CommandLine.Command
import BundleHardening.Settings.Basic
import BundleHardening.Terminal

/-!
# Rewriting a file

A file is read and hardened, the journal gets its entry, and then the hardened text is written to where
it was asked for.  Nothing is written when the file cannot be read or is refused.
-/

set_option autoImplicit false

namespace BundleHardening.CommandLine

/-- What every command is given: the environment, the settings, and whether colours are on. -/
structure Setting where
  environment : Environment
  settings : Settings
  colours : Bool

/-- The chunk that a command is about, under the default name if none is given. -/
def Setting.chunk (s : Setting) (name : Option Text) : Chunk where
  name := some ((name.map String.ofList).getD s.settings.rewrite.defaultChunkName)

namespace RewriteRequest

/-- The file that is written, if the result is not printed. -/
def target? (r : RewriteRequest) : Option Path :=
  match r.destination with
  | .output => none
  | .file p => some p
  | .inPlace => some r.file

/-- The step that hardens the chunk. -/
def hardener (r : RewriteRequest) (s : Setting) : Hardener where
  declares := r.declares || s.settings.rewrite.declares

/-- The line that tells of a file that was written. -/
def written (s : Setting) (p : Path) (report : RenderReport) (microseconds : Nat) : Text :=
  Terminal.paint s.colours (.of .green) "Hardened".toList ++ [' '] ++ p ++ " (".toList ++
    Entry.digits report.inputBytes ++ " -> ".toList ++ Entry.digits report.outputBytes ++
    " bytes, ".toList ++ Entry.digits microseconds ++ "us)".toList

/-- Writes the hardened text to where it was asked for. -/
def deliver (r : RewriteRequest) (s : Setting) (output : Text) (report : RenderReport)
    (microseconds : Nat) : Program (Except Text Unit) :=
  match r.target? with
  | none =>
    Program.writeOutput output fun
      | .error e => pure (.error e.message.toList)
      | .ok () => pure (.ok ())
  | some p => do
    match ← Program.writeText p output with
    | .error e => pure (.error e.message.toList)
    | .ok () =>
      Program.complain (written s p report microseconds)
      pure (.ok ())

/-- Hardens a text that was read, and delivers it. -/
def harden (r : RewriteRequest) (s : Setting) (source : Text) : Program (Except Text Unit) := do
  let chunk := s.chunk r.chunkName
  let label := chunk.context.displayName
  let journal ← Journal.open? s.settings.journal s.environment
  Program.microseconds fun start =>
    match ((r.hardener s).render source chunk).result with
    | .error e => do
      match journal with
      | some j => j.addRefused label (Text.byteSize source) e
      | none => pure ()
      pure (.error e.message.toList)
    | .ok output =>
      Program.microseconds fun stop => do
        let report := RenderReport.of source output
        match journal with
        | some j => j.addRewritten label report (stop - start)
        | none => pure ()
        r.deliver s output report (stop - start)

/-- Rewrites a file. -/
def run (r : RewriteRequest) (s : Setting) : Program (Except Text Unit) := do
  match ← Program.readText r.file with
  | .error e => pure (.error ("cannot read ".toList ++ r.file ++ ": ".toList ++ e.message.toList))
  | .ok source => r.harden s source

end RewriteRequest

end BundleHardening.CommandLine
