import BundleHardening.Hook.Message
import BundleHardening.Text.Bytes

/-!
# Input of a limited size

The bytes of a message are read up to one beyond the limit, so that an input that is too large shows.
They are decoded first, and then measured: a cut inside a character is a fault of its own.
-/

set_option autoImplicit false

namespace BundleHardening

/-- Why no message was read. -/
inductive ReadError where
  | notText
  | tooLarge (size : Nat)
  | notJson (fault : Json.Fault)
  | missingSource
  deriving DecidableEq, Repr

/-- The wording of the error. -/
def ReadError.message : ReadError → String
  | notText => "failed to read hook input: stream did not contain valid UTF-8"
  | tooLarge size => "hook input too large (" ++ toString size ++ " bytes)"
  | notJson fault => "invalid hook JSON: " ++ fault.message
  | missingSource => "hook input has no \"source\" string"

namespace Message

/-- The bytes that are read under a limit: one more than it, counted in 64 bits. -/
def taken (bytes : ByteArray) (limit : UInt64) : ByteArray :=
  bytes.extract 0 (limit + 1).toNat

/-- Reads a message of at most `limit` bytes. -/
def readFrom (bytes : ByteArray) (limit : UInt64) : Except ReadError Message :=
  let taken := taken bytes limit
  match Text.ofBytes? taken with
  | none => .error .notText
  | some t =>
    if limit.toNat < taken.size then .error (.tooLarge taken.size)
    else (ofText? t).mapError .notJson

end Message

end BundleHardening
