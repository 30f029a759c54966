import BundleHardening.CommandLine.Arguments
import BundleHardening.Json.Quoted

/-!
# Commands

What a user can ask for on the command line, and how it is read from arguments.  Without a command the
program answers a build step.
-/

set_option autoImplicit false

namespace BundleHardening.CommandLine

/-- How the result of a check is printed. -/
inductive ReportFormat where
  | pretty
  | json
  deriving DecidableEq, Repr

/-- Which rules are listed. -/
inductive RuleChoice where
  | bootstrap
  | main
  | all
  deriving DecidableEq, Repr

/-- Where a hardened chunk is written. -/
inductive Destination where
  | output
  | file (p : Path)
  | inPlace
  deriving DecidableEq, Repr

/-- What a rewrite is asked to do. -/
structure RewriteRequest where
  file : Path
  destination : Destination := .output
  chunkName : Option Text := none
  declares : Bool := false
  deriving DecidableEq, Repr

/-- What a user asks for. -/
inductive Command where
  | answer
  | rewrite (r : RewriteRequest)
  | check (files : List Path) (chunkName : Option Text) (format : ReportFormat)
  | rules (choice : RuleChoice) (verbose : Bool)
  | sample (destination : Option Path) (force : Bool)
  | settings
  deriving DecidableEq, Repr

/-- A command, with the file of settings that is named for it. -/
structure Invocation where
  settingsFile : Option Path
  command : Command
  deriving DecidableEq, Repr

/-- What a help page is about. -/
inductive Topic where
  | program
  | rewrite
  | check
  | rules
  | sample
  | settings
  | help
  deriving DecidableEq, Repr

/-- What the arguments amount to. -/
inductive Reading where
  | run (i : Invocation)
  | help (topic : Topic)
  | version
  | wrong
  deriving DecidableEq, Repr

/-! ## Forms -/

/-- A path must not be empty. -/
def isPath (t : Text) : Bool :=
  !t.isEmpty

/-- Whether a value is one of a few words. -/
def isOneOf (words : List String) (t : Text) : Bool :=
  (words.map String.toList).contains t

/-- An option with a value. -/
def valued (name : String) (accepts : Text → Bool) (letter : Option Char) : Choice where
  name := name.toList
  letter := letter
  taking := .value accepts

/-- An option without a value. -/
def plain (name : String) (letter : Option Char) : Choice where
  name := name.toList
  letter := letter

/-- The option that names a file of settings. -/
def settingsOption : Choice :=
  valued "config" isPath none

/-- What can be given before a command. -/
def programForm : Form where
  options := [settingsOption]
  hasVersion := true

/-- What can be given to a rewrite. -/
def rewriteForm : Form where
  options :=
    [settingsOption, valued "output" isPath (some 'o'), plain "in-place" none,
     valued "chunk-name" (fun _ => true) none, plain "prelude" none]
  mostOperands := some 1

/-- What can be given to a check. -/
def checkForm : Form where
  options :=
    [settingsOption, valued "chunk-name" (fun _ => true) none,
     valued "format" (isOneOf ["pretty", "json"]) (some 'f')]
  mostOperands := none

/-- What can be given to a list of rules. -/
def rulesForm : Form where
  options :=
    [settingsOption, valued "set" (isOneOf ["bootstrap", "main", "all"]) none,
     plain "verbose" (some 'v')]

/-- What can be given to the sample of settings. -/
def sampleForm : Form where
  options :=
    [settingsOption, valued "output" (fun _ => true) (some 'o'), plain "force" none]

/-- What can be given to the display of settings. -/
def settingsForm : Form where
  options := [settingsOption]

/-! ## Commands from what is given -/

/-- The rewrite that is asked for. -/
def rewriteOf? (g : Given) : Option Command :=
  match g.operands, g.value? "output", g.has "in-place" with
  | [file], none, inPlace => some (.rewrite
      { file := file,
        destination := if inPlace then .inPlace else .output,
        chunkName := g.value? "chunk-name",
        declares := g.has "prelude" })
  | [file], some p, false => some (.rewrite
      { file := file, destination := .file p, chunkName := g.value? "chunk-name",
        declares := g.has "prelude" })
  | _, _, _ => none

/-- The check that is asked for. -/
def checkOf? (g : Given) : Option Command :=
  if g.operands.isEmpty then none
  else
    let format := if g.value? "format" = some "json".toList then .json else .pretty
    some (.check g.operands (g.value? "chunk-name") format)

/-- The list of rules that is asked for. -/
def rulesOf? (g : Given) : Option Command :=
  let choice := match g.value? "set" with
    | some name =>
      if name = "bootstrap".toList then .bootstrap
      else if name = "main".toList then .main
      else .all
    | none => .all
  some (.rules choice (g.has "verbose"))

/-- The sample that is asked for. -/
def sampleOf? (g : Given) : Option Command :=
  some (.sample (g.value? "output") (g.has "force"))

/-- The display of settings. -/
def settingsOf? (_ : Given) : Option Command :=
  some .settings

/-- The commands by name. -/
def topics : List (String × Topic) :=
  [("rewrite", .rewrite), ("check", .check), ("rules", .rules), ("init", .sample),
   ("config", .settings), ("help", .help)]

/-- What a word on the command line is about. -/
def topic? (word : Text) : Option Topic :=
  (topics.find? fun (name, _) => name.toList == word).map Prod.snd

/-- Reads the arguments behind the name of a command.  A file of settings named there wins over one
named before. -/
def readCommand (before : Given) (topic : Topic) (form : Form) (command? : Given → Option Command)
    (arguments : List Text) : Reading :=
  match form.read arguments with
  | .error .help => .help topic
  | .error _ => .wrong
  | .ok g =>
    match command? g with
    | none => .wrong
    | some command => .run ⟨(g.value? "config").orElse fun _ => before.value? "config", command⟩

/-- Reads what help is asked about. -/
def readHelp : List Text → Reading
  | [] => .help .program
  | [word] =>
    match topic? word with
    | some topic => .help topic
    | none => .wrong
  | _ => .wrong

/-- Reads the arguments of the program. -/
def read (arguments : List Text) : Reading :=
  match programForm.readBefore none arguments {} with
  | .error .help => .help .program
  | .error .version => .version
  | .error .wrong => .wrong
  | .ok (g, []) => .run ⟨g.value? "config", .answer⟩
  | .ok (g, word :: rest) =>
    match topic? word with
    | none => .wrong
    | some .rewrite => readCommand g .rewrite rewriteForm rewriteOf? rest
    | some .check => readCommand g .check checkForm checkOf? rest
    | some .rules => readCommand g .rules rulesForm rulesOf? rest
    | some .sample => readCommand g .sample sampleForm sampleOf? rest
    | some .settings => readCommand g .settings settingsForm settingsOf? rest
    | some _ => readHelp rest

end BundleHardening.CommandLine
