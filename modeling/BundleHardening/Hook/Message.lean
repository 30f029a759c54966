import BundleHardening.Json.Reader
import BundleHardening.Render

/-!
# The message of a build step

A build step sends one JSON object for each chunk: the text under `source`, and under `chunk` an
object that may hold the `name` of the chunk.  Both may be left out or be null, a member of another
name is passed over, and a known one must not come twice.  In place of an object an array of the
values may stand.
-/

set_option autoImplicit false

namespace BundleHardening

open Json (Fault Reader)

/-- What a build step says about one chunk. -/
structure Message where
  source : Option Text := none
  chunk : Option Chunk := none

/-- The members of a chunk that were read so far. -/
structure ChunkMembers where
  name : Option (Option String) := none

/-- The members of a message that were read so far. -/
structure MessageMembers where
  source : Option (Option Text) := none
  chunk : Option (Option Chunk) := none

namespace ChunkMembers

/-- Reads the value of a member. -/
def member (found : ChunkMembers) (key : Text) : Reader ChunkMembers := fun t =>
  if key = "name".toList then
    if found.name.isSome then .error .wrongShape
    else do
      let ((), t) ← Json.colon t
      let (name, t) ← Json.nullable Json.stringValue t
      .ok ({ found with name := some (name.map String.ofList) }, t)
  else do
    let ((), t) ← Json.colon t
    let t ← Json.skipValue t
    .ok (found, t)

end ChunkMembers

namespace MessageMembers

/-- The chunk that an object describes. -/
def readChunkObject : Reader Chunk := fun t => do
  let (found, t) ← Json.members ChunkMembers.member {} t
  .ok ({ name := found.name.join }, t)

/-- The chunk that an array describes: its one member is the name. -/
def readChunkArray : Reader Chunk := fun t => do
  let (more, t) ← Json.nextMember true t
  if more then
    let (name, t) ← Json.nullable Json.stringValue t
    let ((), t) ← Json.endArray t
    .ok ({ name := name.map String.ofList }, t)
  else .error .wrongShape

/-- Reads what is said about a chunk. -/
def readChunk : Reader Chunk := fun t =>
  match Json.skipSpace t with
  | '{' :: t => readChunkObject t
  | '[' :: t => readChunkArray t
  | t => .error (Json.wrongShape t)

/-- Reads the value of a member. -/
def member (found : MessageMembers) (key : Text) : Reader MessageMembers := fun t =>
  if key = "source".toList then
    if found.source.isSome then .error .wrongShape
    else do
      let ((), t) ← Json.colon t
      let (source, t) ← Json.nullable Json.stringValue t
      .ok ({ found with source := some source }, t)
  else if key = "chunk".toList then
    if found.chunk.isSome then .error .wrongShape
    else do
      let ((), t) ← Json.colon t
      let (chunk, t) ← Json.nullable readChunk t
      .ok ({ found with chunk := some chunk }, t)
  else do
    let ((), t) ← Json.colon t
    let t ← Json.skipValue t
    .ok (found, t)

end MessageMembers

namespace Message

/-- The message that an object holds. -/
def readObject : Reader Message := fun t => do
  let (found, t) ← Json.members MessageMembers.member {} t
  .ok ({ source := found.source.join, chunk := found.chunk.join }, t)

/-- The message that an array holds: the source, and then what is said about the chunk. -/
def readArray : Reader Message := fun t => do
  let (more, t) ← Json.nextMember true t
  if more then
    let (source, t) ← Json.nullable Json.stringValue t
    let (more, t) ← Json.nextMember false t
    if more then
      let (chunk, t) ← Json.nullable MessageMembers.readChunk t
      let ((), t) ← Json.endArray t
      .ok ({ source := source, chunk := chunk }, t)
    else
      let ((), t) ← Json.endArray t
      .ok ({ source := source }, t)
  else .error .wrongShape

/-- Reads a message. -/
def read : Reader Message := fun t =>
  match Json.skipSpace t with
  | '{' :: t => readObject t
  | '[' :: t => readArray t
  | t => .error (Json.wrongShape t)

/-- The message that a text holds. -/
def ofText? (t : Text) : Except Fault Message :=
  Json.document read t

/-- The chunk that the message is about, under a default name if it has none. -/
def target (m : Message) (defaultName : String) : Chunk where
  name := some ((m.chunk.bind Chunk.name).getD defaultName)

end Message

end BundleHardening
