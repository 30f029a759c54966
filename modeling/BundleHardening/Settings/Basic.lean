import BundleHardening.Data
import BundleHardening.Journal.Basic

/-!
# Settings

What a user can choose, with its defaults, and how the settings are taken from data.  A part that the
data does not hold has its default, and a part that is not known is passed over.
-/

set_option autoImplicit false

namespace BundleHardening

/-- Settings that are not about chunks. -/
structure GeneralSettings where
  /-- When to print in colour: `always`, `never`, or any other word for `only on a terminal`. -/
  color : String := "auto"
  verbose : Bool := false
  deriving DecidableEq, Repr

/-- Settings of a rewrite. -/
structure RewriteSettings where
  /-- Whether the safe copies are declared before each hardened chunk. -/
  declares : Bool := false
  /-- Whether a refused chunk is shown in diagnostics. -/
  dumpSource : Bool := true
  /-- The name of a chunk that has none. -/
  defaultChunkName : String := "main"
  deriving DecidableEq, Repr

/-- Settings of the exchange with a build step. -/
structure HookSettings where
  /-- The greatest number of bytes of a message. -/
  maxInputBytes : UInt64 := 64 * 1024 * 1024
  deriving DecidableEq, Repr

/-- All that a user can choose. -/
structure Settings where
  general : GeneralSettings := {}
  rewrite : RewriteSettings := {}
  hook : HookSettings := {}
  journal : JournalSettings := {}
  deriving DecidableEq, Repr

/-! ## Settings from data -/

/-- The text of a string. -/
def Data.string? (d : Data) : Option String :=
  d.text?.map String.ofList

/-- The settings in data, or none if a part is not of its kind. -/
def GeneralSettings.ofData? (d : Data) : Option GeneralSettings := do
  let color ← d.partOr "color" 0 Data.string? "auto"
  let verbose ← d.partOr "verbose" 1 Data.flag? false
  some ⟨color, verbose⟩

/-- The settings in data, or none if a part is not of its kind. -/
def RewriteSettings.ofData? (d : Data) : Option RewriteSettings := do
  let declares ← d.partOr "prelude" 0 Data.flag? false
  let dumpSource ← d.partOr "dump_source" 1 Data.flag? true
  let defaultChunkName ← d.partOr "default_chunk_name" 2 Data.string? "main"
  some ⟨declares, dumpSource, defaultChunkName⟩

/-- The settings in data, or none if a part is not of its kind. -/
def HookSettings.ofData? (d : Data) : Option HookSettings := do
  let most ← d.partOr "max_input_bytes" 0 Data.size? (64 * 1024 * 1024)
  some ⟨most⟩

/-- The format of a name. -/
def EntryFormat.ofData? (d : Data) : Option EntryFormat :=
  d.word?.bind fun name =>
    if name = "text".toList then some .text
    else if name = "json".toList then some .json
    else none

/-- The choice of entries in data, or none if a part is not of its kind. -/
def EventFilter.ofData? (d : Data) : Option EventFilter := do
  let success ← d.partOr "success" 0 Data.flag? false
  let failure ← d.partOr "failure" 1 Data.flag? true
  some ⟨success, failure⟩

/-- The settings in data, or none if a part is not of its kind. -/
def JournalSettings.ofData? (d : Data) : Option JournalSettings := do
  let enabled ← d.partOr "enabled" 0 Data.flag? false
  let file ← d.partOr "file" 1 Data.optionalText? none
  let format ← d.partOr "format" 2 EntryFormat.ofData? .text
  let events ← d.partOr "events" 3 EventFilter.ofData? {}
  some ⟨enabled, file, format, events⟩

/-- The settings in data, or none if a part is not of its kind. -/
def Settings.ofData? (d : Data) : Option Settings := do
  let general ← d.partOr "general" 0 GeneralSettings.ofData? {}
  let rewrite ← d.partOr "rewrite" 1 RewriteSettings.ofData? {}
  let hook ← d.partOr "hook" 2 HookSettings.ofData? {}
  let journal ← d.partOr "logging" 3 JournalSettings.ofData? {}
  some ⟨general, rewrite, hook, journal⟩

end BundleHardening
