/-!
# Faults of a JSON text

A text can fail to be what is asked for in three ways, and the first fault met while reading from
the left decides which.
-/

set_option autoImplicit false

namespace BundleHardening.Json

/-- Why a text is not the JSON that is asked for. -/
inductive Fault where
  /-- The text is not JSON. -/
  | malformed
  /-- The text is JSON of another shape. -/
  | wrongShape
  /-- The text ends early. -/
  | cutShort
  deriving DecidableEq, Repr

namespace Fault

/-- The name of the fault. -/
def category : Fault → String
  | malformed => "syntax"
  | wrongShape => "data"
  | cutShort => "eof"

/-- The wording of the fault. -/
def message : Fault → String
  | malformed => "not well-formed"
  | wrongShape => "unexpected shape"
  | cutShort => "unexpected end of input"

end Fault

end BundleHardening.Json
