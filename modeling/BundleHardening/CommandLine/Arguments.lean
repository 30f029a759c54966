import BundleHardening.File.Path

/-!
# Options and operands

The arguments of a command are options, with or without a value, and operands.  An option is written
`--name` or by its letter; a value follows as an argument of its own, behind `=`, or directly behind
the letter.  Letters of options without a value may share an argument.  After `--` only operands
follow.  No option may be given twice, and a value may not look like an option.
-/

set_option autoImplicit false

namespace BundleHardening.CommandLine

/-- What an option takes. -/
inductive Taking where
  | nothing
  /-- A value for which the test holds. -/
  | value (accepts : Text → Bool)

/-- An option of a command. -/
structure Choice where
  name : Text
  letter : Option Char := none
  taking : Taking := .nothing

/-- What is given in arguments: options by name, with their values, and operands. -/
structure Given where
  options : List (Text × Text) := []
  operands : List Text := []

/-- Why reading ends before the arguments do. -/
inductive Stop where
  | help
  | version
  | wrong
  deriving DecidableEq, Repr

namespace Given

/-- Whether an option is given. -/
def has (g : Given) (name : String) : Bool :=
  (g.options.lookup name.toList).isSome

/-- The value of an option. -/
def value? (g : Given) (name : String) : Option Text :=
  g.options.lookup name.toList

end Given

/-- What can be given to a command. -/
structure Form where
  options : List Choice
  /-- Whether `--version` asks for the version. -/
  hasVersion : Bool := false
  /-- The greatest number of operands; without one there may be any number. -/
  mostOperands : Option Nat := some 0

/-- Whether an argument is an option and so no value. -/
def looksLikeOption : Text → Bool
  | '-' :: _ :: _ => true
  | _ => false

namespace Form

/-- The option of a name. -/
def named? (f : Form) (name : Text) : Option Choice :=
  f.options.find? (·.name == name)

/-- The option of a letter. -/
def lettered? (f : Form) (letter : Char) : Option Choice :=
  f.options.find? (·.letter == some letter)

/-- The answer to a name that belongs to no option. -/
def unknownName (f : Form) (name : Text) : Stop :=
  if name = "help".toList then .help
  else if f.hasVersion ∧ name = "version".toList then .version
  else .wrong

/-- The answer to a letter that belongs to no option. -/
def unknownLetter (f : Form) (letter : Char) : Stop :=
  if letter = 'h' then .help
  else if f.hasVersion ∧ letter = 'V' then .version
  else .wrong

/-- Adds an option. -/
def addOption (o : Choice) (value : Text) (g : Given) : Except Stop Given :=
  let acceptable := match o.taking with
    | .nothing => true
    | .value accepts => accepts value
  if (g.options.lookup o.name).isSome || !acceptable then .error .wrong
  else .ok { g with options := g.options ++ [(o.name, value)] }

/-- Adds an operand, which is a path. -/
def addOperand (f : Form) (a : Text) (g : Given) : Except Stop Given :=
  if a.isEmpty then .error .wrong
  else
    match f.mostOperands with
    | some most =>
      if g.operands.length < most then .ok { g with operands := g.operands ++ [a] }
      else .error .wrong
    | none => .ok { g with operands := g.operands ++ [a] }

/-- What one argument asks for. -/
inductive Step where
  | given (g : Given)
  | awaiting (o : Choice) (g : Given)

/-- Reads the name of an option and the value behind `=`, if there is one. -/
def readNamed (f : Form) (a : Text) (g : Given) : Except Stop Step := do
  let name := a.takeWhile (· != '=')
  let attached := match a.dropWhile (· != '=') with
    | _ :: value => some value
    | [] => none
  match f.named? name with
  | none => .error (if attached.isSome then .wrong else f.unknownName name)
  | some o =>
    match o.taking, attached with
    | .nothing, none => (addOption o [] g).map .given
    | .nothing, some _ => .error .wrong
    | .value _, none => .ok (.awaiting o g)
    | .value _, some value => (addOption o value g).map .given

/-- Reads letters of options; the first that takes a value has the rest for it. -/
def readLetters (f : Form) : Text → Given → Except Stop Step
  | [], g => .ok (.given g)
  | letter :: rest, g =>
    match f.lettered? letter with
    | none => .error (f.unknownLetter letter)
    | some o =>
      match o.taking with
      | .nothing => do
        let g ← addOption o [] g
        f.readLetters rest g
      | .value _ =>
        match rest with
        | [] => .ok (.awaiting o g)
        | '=' :: value => (addOption o value g).map .given
        | value => (addOption o value g).map .given

/-- Reads arguments.  `awaiting` is an option that still needs its value. -/
def readFrom (f : Form) : (awaiting : Option Choice) → List Text → Given → Except Stop Given
  | none, [], g => .ok g
  | some _, [], _ => .error .wrong
  | some o, a :: rest, g =>
    if looksLikeOption a then .error .wrong
    else do
      let g ← addOption o a g
      f.readFrom none rest g
  | none, a :: rest, g =>
    if a = ['-', '-'] then rest.foldlM (fun g a => f.addOperand a g) g
    else if looksLikeOption a then do
      let step ← match a with
        | '-' :: '-' :: name => f.readNamed name g
        | _ => f.readLetters a.tail g
      match step with
      | .given g => f.readFrom none rest g
      | .awaiting o g => f.readFrom (some o) rest g
    else do
      let g ← f.addOperand a g
      f.readFrom none rest g

/-- Reads the arguments of a command. -/
def read (f : Form) (arguments : List Text) : Except Stop Given :=
  f.readFrom none arguments {}

/-- Reads arguments up to the first that is no option: what is given before it, and what follows. -/
def readBefore (f : Form) : (awaiting : Option Choice) → List Text → Given →
    Except Stop (Given × List Text)
  | none, [], g => .ok (g, [])
  | some _, [], _ => .error .wrong
  | some o, a :: rest, g =>
    if looksLikeOption a then .error .wrong
    else do
      let g ← addOption o a g
      f.readBefore none rest g
  | none, a :: rest, g =>
    if a = ['-', '-'] then (if rest.isEmpty then .ok (g, []) else .error .wrong)
    else if looksLikeOption a then do
      let step ← match a with
        | '-' :: '-' :: name => f.readNamed name g
        | _ => f.readLetters a.tail g
      match step with
      | .given g => f.readBefore none rest g
      | .awaiting o g => f.readBefore (some o) rest g
    else .ok (g, a :: rest)

end Form

end BundleHardening.CommandLine
