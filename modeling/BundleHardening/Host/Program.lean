import BundleHardening.File.Error
import BundleHardening.File.Path
import BundleHardening.Text.Bytes

/-!
# Programs

A program asks its host for files, for its input and for the time; it writes, and it goes on with each
answer.  What the answers are is for the host to say.
-/

set_option autoImplicit false

namespace BundleHardening

/-- Where a program prints to. -/
inductive Channel where
  | output
  | diagnostics
  deriving DecidableEq, Repr

/-- A program that asks its host one thing after another and ends in a value. -/
inductive Program (α : Type) where
  | done (a : α)
  /-- Reads a file. -/
  | readFile (p : Path) (next : Except FileError ByteArray → Program α)
  /-- Writes a file anew. -/
  | writeFile (p : Path) (content : ByteArray) (next : Except FileError Unit → Program α)
  /-- Writes behind what a file holds. -/
  | appendFile (p : Path) (content : ByteArray) (next : Except FileError Unit → Program α)
  /-- Creates a directory and those above it. -/
  | makeDirectories (p : Path) (next : Except FileError Unit → Program α)
  /-- Asks whether a path leads anywhere. -/
  | isThere (p : Path) (next : Bool → Program α)
  /-- Reads at most so many bytes of the input. -/
  | readInput (most : Nat) (next : ByteArray → Program α)
  /-- Prints, and does not look whether the channel takes the text. -/
  | print (channel : Channel) (t : Text) (next : Program α)
  /-- Prints on the output, and learns whether it takes the text. -/
  | writeOutput (t : Text) (next : Except FileError Unit → Program α)
  /-- Asks for the seconds since the beginning of 1970. -/
  | seconds (next : Nat → Program α)
  /-- Asks for the reading of a clock that counts microseconds. -/
  | microseconds (next : Nat → Program α)

namespace Program

variable {α β : Type}

/-- Goes on with the value that a program ends in. -/
def andThen (f : α → Program β) : Program α → Program β
  | done a => f a
  | readFile p next => readFile p fun r => (next r).andThen f
  | writeFile p content next => writeFile p content fun r => (next r).andThen f
  | appendFile p content next => appendFile p content fun r => (next r).andThen f
  | makeDirectories p next => makeDirectories p fun r => (next r).andThen f
  | isThere p next => isThere p fun r => (next r).andThen f
  | readInput most next => readInput most fun r => (next r).andThen f
  | print channel t next => print channel t (next.andThen f)
  | writeOutput t next => writeOutput t fun r => (next r).andThen f
  | seconds next => seconds fun r => (next r).andThen f
  | microseconds next => microseconds fun r => (next r).andThen f

instance : Monad Program where
  pure := done
  bind s f := s.andThen f

/-- Prints a line of output. -/
def line (t : Text) : Program Unit :=
  print .output (t ++ ['\n']) (done ())

/-- Prints a line of diagnostics. -/
def complain (t : Text) : Program Unit :=
  print .diagnostics (t ++ ['\n']) (done ())

/-- Reads a file that holds text. -/
def readText (p : Path) : Program (Except FileError Text) :=
  readFile p fun
    | .error e => done (.error e)
    | .ok bytes =>
      match Text.ofBytes? bytes with
      | some t => done (.ok t)
      | none => done (.error .notText)

/-- Writes a file that holds text. -/
def writeText (p : Path) (t : Text) : Program (Except FileError Unit) :=
  writeFile p (Text.toBytes t) done

end Program

end BundleHardening
