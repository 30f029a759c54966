import BundleHardening.Settings.Basic
import BundleHardening.Toml.Quoted

/-!
# Documents of settings

The settings written as a TOML document, and a sample document that says what each of them means.
-/

set_option autoImplicit false

namespace BundleHardening.Settings

/-- The written form of a truth value. -/
def flagText (b : Bool) : Text :=
  (if b then "true" else "false").toList

/-- One line of a document. -/
def assignment (name : String) (value : Text) : Text :=
  name.toList ++ " = ".toList ++ value ++ ['\n']

/-- A part of a document under its header. -/
def headed (name : String) (lines : List Text) : Text :=
  ['['] ++ name.toList ++ [']', '\n'] ++ lines.flatten

/-- The settings as a document. -/
def document (s : Settings) : Text :=
  Json.joined ['\n']
    [headed "general"
      [assignment "color" (Toml.quote s.general.color.toList),
       assignment "verbose" (flagText s.general.verbose)],
     headed "rewrite"
      [assignment "prelude" (flagText s.rewrite.declares),
       assignment "dump_source" (flagText s.rewrite.dumpSource),
       assignment "default_chunk_name" (Toml.quote s.rewrite.defaultChunkName.toList)],
     headed "hook"
      [assignment "max_input_bytes" (toString s.hook.maxInputBytes.toNat).toList],
     headed "logging"
      ([assignment "enabled" (flagText s.journal.enabled)] ++
       (s.journal.file.map fun file => assignment "file" (Toml.quote file)).toList ++
       [assignment "format" (Toml.quote s.journal.format.name.toList)]),
     headed "logging.events"
      [assignment "success" (flagText s.journal.events.success),
       assignment "failure" (flagText s.journal.events.failure)]]

/-- The lines of the sample document. -/
def sampleLines : List String :=
  ["# bpg configuration",
   "#",
   "# Layers, lowest to highest priority: /etc/bpg/config.toml,",
   "# ~/.config/bpg/config.toml, .bpg.toml (project), --config, BPG_* env vars.",
   "",
   "[general]",
   "# Color output: \"auto\", \"always\", \"never\"",
   "color = \"auto\"",
   "# Debug diagnostics on stderr (RUST_LOG overrides)",
   "verbose = false",
   "",
   "[rewrite]",
   "# Prepend declarations of defineProperty, safeCall, hasOwnProperty and",
   "# toStringTagSym. Leave off when the build already declares them.",
   "prelude = false",
   "# Print the unmodified chunk when a mandatory rule does not match",
   "dump_source = true",
   "# Chunk name used in diagnostics when none is given",
   "default_chunk_name = \"main\"",
   "",
   "[hook]",
   "# Maximum stdin size accepted in hook mode",
   "max_input_bytes = 67108864",
   "",
   "[logging]",
   "enabled = false",
   "# file = \"~/.local/share/bpg/rewrites.log\"",
   "format = \"text\"",
   "",
   "[logging.events]",
   "success = false",
   "failure = true"]

/-- A document of settings with all defaults and what they mean. -/
def sample : Text :=
  sampleLines.flatMap fun line => line.toList ++ ['\n']

end BundleHardening.Settings
