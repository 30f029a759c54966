import BundleHardening.Host.Environment
import BundleHardening.Settings.Basic
import BundleHardening.Toml.Reader

/-!
# Layers of settings

Settings come from files in a rising order: one for the system, one of the user, one of the project,
and one that is named on the command line.  A layer counts where it differs from the defaults, and its
journal as a whole where it turns the journal on.  Variables of the environment come last.

A file that is looked for may be missing or wrong, and is then passed over; one that is named may not.
-/

set_option autoImplicit false

namespace BundleHardening

/-- Why the settings cannot be had. -/
inductive SettingsError where
  | unreadable (p : Path) (e : FileError)
  | invalid (p : Path)
  deriving DecidableEq, Repr

/-- The wording of the error. -/
def SettingsError.message : SettingsError → Text
  | unreadable p e => "cannot read ".toList ++ p ++ ": ".toList ++ e.message.toList
  | invalid p => "invalid config ".toList ++ p ++ ": not a document of settings".toList

namespace Settings

/-! ## Merging -/

/-- The settings with those of a higher layer over them. -/
def under (lower upper : Settings) : Settings where
  general :=
    { color :=
        if upper.general.color = ({} : GeneralSettings).color then lower.general.color
        else upper.general.color,
      verbose := lower.general.verbose || upper.general.verbose }
  rewrite :=
    { declares := lower.rewrite.declares || upper.rewrite.declares,
      dumpSource := lower.rewrite.dumpSource && upper.rewrite.dumpSource,
      defaultChunkName :=
        if upper.rewrite.defaultChunkName = ({} : RewriteSettings).defaultChunkName then
          lower.rewrite.defaultChunkName
        else upper.rewrite.defaultChunkName }
  hook :=
    { maxInputBytes :=
        if upper.hook.maxInputBytes = ({} : HookSettings).maxInputBytes then
          lower.hook.maxInputBytes
        else upper.hook.maxInputBytes }
  journal := if upper.journal.enabled then upper.journal else lower.journal

/-- The settings of layers in rising order. -/
def ofLayers (layers : List Settings) : Settings :=
  layers.foldl under {}

/-! ## The environment -/

/-- Whether a variable says yes. -/
def saysYes (value : String) : Bool :=
  let word := (Text.trim value.toList).map Char.toLower
  !(["", "0", "false", "no", "off"].map String.toList).contains word

/-- The settings with the variables of the environment over them. -/
def withVariables (s : Settings) (env : Environment) : Settings where
  general :=
    { color := (env.lookup? "BPG_COLOR").getD s.general.color,
      verbose := s.general.verbose || (env.lookup? "BPG_VERBOSE").isSome }
  rewrite :=
    { s.rewrite with declares := ((env.lookup? "BPG_PRELUDE").map saysYes).getD s.rewrite.declares }
  hook := s.hook
  journal :=
    match env.lookup? "BPG_LOG_FILE" with
    | some file => { s.journal with enabled := true, file := some file.toList }
    | none => s.journal

/-! ## Files -/

/-- The settings that a text holds. -/
def ofText? (t : Text) : Option Settings :=
  (Toml.read? t).bind ofData?

/-- Reads a file of settings. -/
def readFile (p : Path) : Program (Except SettingsError Settings) := do
  match ← Program.readText p with
  | .error e => pure (.error (.unreadable p e))
  | .ok t =>
    match ofText? t with
    | some s => pure (.ok s)
    | none => pure (.error (.invalid p))

/-- Reads a file of settings if it is there and in order. -/
def readIfAny : Option Path → Program (Option Settings)
  | none => pure none
  | some p => do
    let r ← readFile p
    pure r.toOption

/-- The file of the system's settings. -/
def systemFile : Path := "/etc/bpg/config.toml".toList

/-- The file of the user's settings. -/
def userFile? (env : Environment) : Option Path :=
  env.settingsDirectory?.map fun directory =>
    Path.join (Path.join directory "bpg".toList) "config.toml".toList

/-- The name of a project's settings. -/
def projectName : Path := ".bpg.toml".toList

/-- The name that marks the top of a repository. -/
def repositoryName : Path := ".git".toList

/-- Looks for the settings of a project in one directory after another, up to the top of a
repository. -/
def findProjectFileIn : List Path → Program (Option Path)
  | [] => pure none
  | directory :: above =>
    let file := Path.join directory projectName
    Program.isThere file fun found =>
      if found then pure (some file)
      else
        Program.isThere (Path.join directory repositoryName) fun top =>
          if top then pure none else findProjectFileIn above

/-- Looks for the settings of a project in a directory and those above it. -/
def findProjectFile (start : Path) : Program (Option Path) :=
  findProjectFileIn start.ancestors

/-- Reads the layers that are looked for, in rising order. -/
def readLayers (env : Environment) : Program (List Settings) := do
  let system ← readIfAny (some systemFile)
  let user ← readIfAny (userFile? env)
  let file ← findProjectFile env.directory
  let project ← readIfAny file
  pure (system.toList ++ user.toList ++ project.toList)

/-- Loads the settings, with a file over the layers if one is named. -/
def load (env : Environment) (named : Option Path) : Program (Except SettingsError Settings) := do
  let layers ← readLayers env
  match named with
  | none => pure (.ok ((ofLayers layers).withVariables env))
  | some p =>
    match ← readFile p with
    | .error e => pure (.error e)
    | .ok s => pure (.ok ((ofLayers (layers ++ [s])).withVariables env))

end Settings

end BundleHardening
