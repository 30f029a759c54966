import BundleHardening.File.Path

/-!
# The environment of a program

What a program is told when it starts: the variables, the working directory and the account of the user.
-/

set_option autoImplicit false

namespace BundleHardening

/-- The variables and the working directory that a program is started with, whether what it prints goes to a
terminal that takes colours, and the home directory that the system has on record for the user. -/
structure Environment where
  bindings : List (String × String) := []
  directory : Path := ['/']
  terminal : Bool := false
  accountHome? : Option Path := none

namespace Environment

/-- The value of a variable. -/
def lookup? (env : Environment) (name : String) : Option String :=
  env.bindings.lookup name

/-- The home directory: the one that the variable gives, or else the one on record. -/
def home? (env : Environment) : Option Path :=
  match env.lookup? "HOME" with
  | some home => if home.isEmpty then env.accountHome? else some home.toList
  | none => env.accountHome?

/-- The directory of the user's settings: the one given for it, if that is absolute, else the usual
one below the home directory. -/
def settingsDirectory? (env : Environment) : Option Path :=
  let usual := env.home?.map fun home => Path.join home ".config".toList
  match env.lookup? "XDG_CONFIG_HOME" with
  | some given => if Path.isAbsolute given.toList then some given.toList else usual
  | none => usual

/-- A path in which a leading `~/` stands for the home directory. -/
def expandHome (env : Environment) (p : Path) : Path :=
  match p, env.home? with
  | '~' :: '/' :: rest, some home => Path.join home rest
  | _, _ => p

end Environment

end BundleHardening
