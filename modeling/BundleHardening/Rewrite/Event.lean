import BundleHardening.Hardening.Layout
import BundleHardening.Rewrite.Error

/-!
# What happens during a rewrite

Each rule that runs leaves an event, and a refusal leaves one that carries the whole text.  A panic is an
event too: it is the last one, for it takes the program down.
-/

set_option autoImplicit false

namespace BundleHardening

/-- The weight of an event.  A panic is told by the runtime, and weighs more than what the program tells. -/
inductive Level where
  | panic
  | error
  | debug
  | trace
  deriving DecidableEq, Repr

/-- The name of the level. -/
def Level.label : Level → String
  | panic => "PANIC"
  | error => "ERROR"
  | debug => "DEBUG"
  | trace => "TRACE"

/-- Something that happened during a rewrite. -/
inductive Event where
  | mandatoryApplied (rule : String)
  | optionalApplied (rule : String)
  | optionalMissed (rule : String)
  | transformApplied (rule : String)
  | refused (rule : String) (index : Nat) (error : RewriteError) (source : Text)
  | registryLocated (layout : Layout) (guarded : Bool)
  | panicked (rule : String)
  deriving DecidableEq, Repr

/-- A value attached to an event. -/
inductive FieldValue where
  | text (s : String)
  | number (n : Nat)
  | flag (b : Bool)

namespace Event

/-- The level of an event. -/
def level : Event → Level
  | mandatoryApplied _ | optionalApplied _ | registryLocated _ _ => .debug
  | optionalMissed _ | transformApplied _ => .trace
  | refused _ _ _ _ => .error
  | panicked _ => .panic

/-- The wording of an event. -/
def message : Event → String
  | mandatoryApplied _ => "mandatory rule applied"
  | optionalApplied _ => "optional rule applied"
  | optionalMissed _ => "optional rule did not match"
  | transformApplied _ => "transform applied"
  | refused _ _ error source => error.message ++ ":\n" ++ String.ofList source
  | registryLocated _ _ => "module registry located"
  | panicked _ => "panicked"

/-- The values attached to an event. -/
def fields : Event → List (String × FieldValue)
  | mandatoryApplied rule | optionalApplied rule | optionalMissed rule | transformApplied rule
  | panicked rule => [("rule", .text rule)]
  | refused rule index _ _ => [("rule", .text rule), ("rule_index", .number index)]
  | registryLocated layout guarded =>
    [("layout", .text layout.label), ("guarded", .flag guarded)]

end Event

end BundleHardening
