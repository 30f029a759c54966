import BundleHardening.Hardening.MainChunk
import BundleHardening.Hardening.SafeBindings

/-!
# Rendering a chunk

When a build tool has generated the main chunk, the text passes through a waterfall of named taps:
each receives what the one before returned, and the first failure ends the render.  The hardener is
one such tap.
-/

set_option autoImplicit false

namespace BundleHardening

/-- What the build tool says about a chunk. -/
structure Chunk where
  name : Option String := none

/-- What rules are told about the chunk. -/
def Chunk.context (c : Chunk) : Context where
  chunkName := c.name

/-- The step that hardens a main chunk, with or without the declarations of the safe copies. -/
structure Hardener where
  declares : Bool := false

namespace Hardener

/-- The name under which the step is registered. -/
def tapName : String := "ProtectBootstrapPlugin"

/-- Hardens a chunk; an empty one is left as it is. -/
def render (h : Hardener) (t : Text) (chunk : Chunk) : Run Text :=
  if t.isEmpty then .done []
  else do
    let out ← MainChunk.rules.apply t chunk.context
    pure (if h.declares then SafeBindings.withPrelude out else out)

end Hardener

/-- A named step of the waterfall. -/
structure Tap where
  name : String
  call : Text → Chunk → Run Text

/-- The taps of a render, in the order in which they are called. -/
structure Waterfall where
  taps : List Tap := []

namespace Waterfall

/-- With one more tap at the end. -/
def tap (w : Waterfall) (t : Tap) : Waterfall where
  taps := w.taps ++ [t]

/-- The names of the taps. -/
def names (w : Waterfall) : List String :=
  w.taps.map Tap.name

/-- Passes a text through the taps. -/
def callAll (chunk : Chunk) : List Tap → Text → Run Text
  | [], t => .done t
  | tap :: taps, t => do
    let t ← tap.call t chunk
    callAll chunk taps t

/-- Renders a chunk. -/
def call (w : Waterfall) (t : Text) (chunk : Chunk) : Run Text :=
  callAll chunk w.taps t

end Waterfall

/-- Registers the hardener. -/
def Hardener.register (h : Hardener) (w : Waterfall) : Waterfall :=
  w.tap { name := Hardener.tapName, call := h.render }

/-- The sizes of a rewritten chunk in bytes. -/
structure RenderReport where
  inputBytes : Nat
  outputBytes : Nat

/-- The sizes of a chunk before and after. -/
def RenderReport.of (input output : Text) : RenderReport where
  inputBytes := Text.byteSize input
  outputBytes := Text.byteSize output

end BundleHardening
