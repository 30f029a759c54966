import BundleHardening.CommandLine.Command

/-!
# Help pages

What is printed when help is asked for, one page for the program and one for each of its commands.
-/

set_option autoImplicit false

namespace BundleHardening.CommandLine

/-- The line about the file of settings in the list of options. -/
def settingsLine (indent : String) : String :=
  "      --config <PATH>" ++ indent ++ "Config file layered over the implicit ones"

/-- The lines of a page. -/
def Topic.lines : Topic → List String
  | program =>
    ["Hardens bundler bootstrap/runtime code against prototype pollution by rewriting " ++
       "generated chunks",
     "",
     "Usage: bpg [OPTIONS] [COMMAND]",
     "",
     "Commands:",
     "  rewrite  Rewrite a generated main chunk",
     "  check    Dry-run the main rule set over bundle files",
     "  rules    List the rules in application order",
     "  init     Generate a sample configuration file",
     "  config   Show the effective configuration",
     "  help     Print this message or the help of the given subcommand(s)",
     "",
     "Options:",
     settingsLine "  ",
     "  -h, --help           Print help",
     "  -V, --version        Print version",
     "",
     "Run 'bpg check <bundle.js>' to verify a bundle can be hardened."]
  | rewrite =>
    ["Rewrite a generated main chunk",
     "",
     "Usage: bpg rewrite [OPTIONS] <FILE>",
     "",
     "Arguments:",
     "  <FILE>  Bundle file to harden",
     "",
     "Options:",
     settingsLine "            ",
     "  -o, --output <OUTPUT>          Write the result here instead of stdout",
     "      --in-place                 Overwrite the input file",
     "      --chunk-name <CHUNK_NAME>  Chunk name used in diagnostics",
     "      --prelude                  Prepend declarations of the safe bindings",
     "  -h, --help                     Print help"]
  | check =>
    ["Dry-run the main rule set over bundle files",
     "",
     "Usage: bpg check [OPTIONS] <FILES>...",
     "",
     "Arguments:",
     "  <FILES>...  Bundle files to check",
     "",
     "Options:",
     "      --chunk-name <CHUNK_NAME>  Chunk name used in diagnostics",
     settingsLine "            ",
     "  -f, --format <FORMAT>          Output format (pretty or json) [default: pretty] " ++
       "[possible values:",
     "                                 pretty, json]",
     "  -h, --help                     Print help"]
  | rules =>
    ["List the rules in application order",
     "",
     "Usage: bpg rules [OPTIONS]",
     "",
     "Options:",
     settingsLine "  ",
     "      --set <SET>      Which rule set to show [default: all] " ++
       "[possible values: bootstrap, main, all]",
     "  -v, --verbose        Show patterns and replacements",
     "  -h, --help           Print help"]
  | sample =>
    ["Generate a sample configuration file",
     "",
     "Usage: bpg init [OPTIONS]",
     "",
     "Options:",
     settingsLine "    ",
     "  -o, --output <OUTPUT>  Output path (defaults to stdout)",
     "      --force            Overwrite existing config file",
     "  -h, --help             Print help"]
  | settings =>
    ["Show the effective configuration",
     "",
     "Usage: bpg config [OPTIONS]",
     "",
     "Options:",
     settingsLine "  ",
     "  -h, --help           Print help"]
  | help =>
    ["Print this message or the help of the given subcommand(s)",
     "",
     "Usage: bpg help [COMMAND]...",
     "",
     "Arguments:",
     "  [COMMAND]...  Print help for the subcommand(s)"]

/-- The page about a topic. -/
def Topic.page (topic : Topic) : Text :=
  topic.lines.flatMap fun line => line.toList ++ ['\n']

end BundleHardening.CommandLine
