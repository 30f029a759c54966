import BundleHardening.CommandLine.Run
import Std.Time.DateTime.Timestamp

/-!
# The program

The program is run on the real host: each request of a `Program` is answered by the files, the streams
and the clocks of the system.
-/

set_option autoImplicit false

namespace BundleHardening.Main

/-- The error of a number of the system, which may come with its sign turned. -/
def errorOf (code : UInt32) (details : String) : FileError :=
  let number := if code < 0x80000000 then code else 0 - code
  if number = 2 then .notFound
  else if number = 13 then .notAllowed
  else if number = 17 then .alreadyThere
  else if number = 20 then .notADirectory
  else if number = 21 then .isADirectory
  else if number = 36 then .nameTooLong
  else .other (details ++ " (os error " ++ toString number.toNat ++ ")")

/-- The error of a file that the system reports. -/
def fileError : IO.Error → FileError
  | .noFileOrDirectory _ code details | .interrupted _ code details => errorOf code details
  | .alreadyExists _ code details | .invalidArgument _ code details
  | .permissionDenied _ code details | .resourceExhausted _ code details
  | .inappropriateType _ code details | .noSuchThing _ code details => errorOf code details
  | .otherError code details | .resourceBusy code details | .resourceVanished code details
  | .unsupportedOperation code details | .hardwareFault code details
  | .unsatisfiedConstraints code details | .illegalOperation code details
  | .protocolError code details | .timeExpired code details => errorOf code details
  | .unexpectedEof => .other "unexpected end of file"
  | .userError details => .other details

/-- What an action ends in, or why a file could not be used. -/
def attempt {α : Type} (act : IO α) : IO (Except FileError α) := do
  try
    let a ← act
    pure (.ok a)
  catch e => pure (.error (fileError e))

/-- Reads at most so many bytes of a stream. -/
partial def readUpTo (stream : IO.FS.Stream) (most : Nat) (before : ByteArray) : IO ByteArray := do
  if most ≤ before.size then return before
  let bytes ← stream.read (min 65536 (most - before.size)).toUSize
  if bytes.isEmpty then return before
  readUpTo stream most (before ++ bytes)

/-- Writes behind what a file holds. -/
def append (p : Path) (content : ByteArray) : IO Unit := do
  let h ← IO.FS.Handle.mk (String.ofList p) .append
  h.write content
  h.flush

/-- Whether a path leads anywhere. -/
def isThere (p : Path) : IO Bool := do
  try
    discard (IO.FS.realPath (String.ofList p))
    pure true
  catch _ => pure false

/-- Runs a program on the system. -/
def perform {α : Type} : Program α → IO α
  | .done a => pure a
  | .readFile p next => do perform (next (← attempt (IO.FS.readBinFile (String.ofList p))))
  | .writeFile p content next => do
    perform (next (← attempt (IO.FS.writeBinFile (String.ofList p) content)))
  | .appendFile p content next => do perform (next (← attempt (append p content)))
  | .makeDirectories p next => do
    if p.isEmpty then perform (next (.ok ()))
    else perform (next (← attempt (IO.FS.createDirAll (String.ofList p))))
  | .isThere p next => do perform (next (← isThere p))
  | .readInput most next => do perform (next (← readUpTo (← IO.getStdin) most .empty))
  | .print channel t next => do
    let stream ← match channel with
      | .output => IO.getStdout
      | .diagnostics => IO.getStderr
    stream.putStr (String.ofList t)
    stream.flush
    perform next
  | .writeOutput t next => do
    let stream ← IO.getStdout
    perform (next (← attempt do stream.putStr (String.ofList t); stream.flush))
  | .seconds next => do
    let now ← Std.Time.Timestamp.now
    perform (next now.toSecondsSinceUnixEpoch.val.toNat)
  | .microseconds next => do perform (next ((← IO.monoNanosNow) / 1000))

/-- The variables that the program looks at. -/
def variableNames : List String :=
  ["HOME", "XDG_CONFIG_HOME", "BPG_VERBOSE", "BPG_COLOR", "BPG_PRELUDE", "BPG_LOG_FILE"]

/-- The environment of the program; the record of the user's account is not looked up. -/
def environment : IO Environment := do
  let mut found := []
  for name in variableNames do
    if let some value ← IO.getEnv name then found := (name, value) :: found
  let directory ← IO.currentDir
  let terminal ← (← IO.getStderr).isTty
  let plain ← IO.getEnv "NO_COLOR"
  pure { bindings := found, directory := directory.toString.toList,
         terminal := terminal && plain.isNone }

end BundleHardening.Main

/-- Runs the program with its arguments. -/
def main (arguments : List String) : IO UInt32 := do
  let env ← BundleHardening.Main.environment
  let code ← BundleHardening.Main.perform
    (BundleHardening.CommandLine.run env (arguments.map String.toList))
  pure code.toUInt32
