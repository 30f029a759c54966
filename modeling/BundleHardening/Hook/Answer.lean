import BundleHardening.Hook.Input
import BundleHardening.Json.Quoted

/-!
# The answer to a build step

The answer is one line: the hardened chunk, or what was refused and why.
-/

set_option autoImplicit false

namespace BundleHardening

/-- What becomes of a chunk that a build step sends. -/
structure Delivery where
  /-- The chunk, under its name. -/
  chunk : Chunk
  /-- The text that was sent. -/
  source : Text
  /-- The hardened text, or why it was refused. -/
  result : Except RewriteError Text

namespace Delivery

/-- The name of the chunk in messages. -/
def label (d : Delivery) : String :=
  d.chunk.context.displayName

end Delivery

/-- How a chunk is taken from a build step. -/
structure Intake where
  /-- The greatest number of bytes of a message. -/
  limit : UInt64
  /-- The name of a chunk that is sent without one. -/
  defaultName : String
  /-- The step that hardens the chunk. -/
  hardener : Hardener

namespace Intake

/-- What becomes of a message that was read. -/
def deliver (i : Intake) (m : Message) : Except ReadError Delivery :=
  match m.source with
  | none => .error .missingSource
  | some source =>
    let chunk := m.target i.defaultName
    .ok { chunk := chunk, source := source,
          result := ((i.hardener.register {}).call source chunk).result }

end Intake

/-- The line that gives a hardened chunk back. -/
def hardenedLine (output : Text) : Text :=
  Json.object [Json.member "source" (Json.quote output)]

/-- The line that tells of a refused chunk. -/
def refusedLine (e : RewriteError) (label : String) : Text :=
  Json.object
    [Json.member "error" (Json.quote e.message.toList),
     Json.member "rule" (Json.quote e.rule.toList),
     Json.member "pattern" (Json.quote e.pattern),
     Json.member "chunk" (Json.quote label.toList)]

/-- The line of the answer. -/
def Delivery.line (d : Delivery) : Text :=
  match d.result with
  | .ok output => hardenedLine output
  | .error e => refusedLine e d.label

end BundleHardening
