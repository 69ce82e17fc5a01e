import SchemaTypings.CommandLine.Arguments

/-! # Help and version

The texts that are printed on request, and the hint for a call that makes no sense.
-/
namespace SchemaTypings
namespace CommandLine

/-- The name and the version of the program. -/
def versionText : String := "jsonschema-ts 0.1.0\n"

/-- The parameters of `compile` and `check`. -/
def parameterLines : List String := [
  "  -n, --name <NAME>              Root type name (defaults to the input file stem)",
  "      --document                 Treat the input as a document of named entries",
  "      --config <CONFIG>          JSON file with compile options (kebab-case keys)",
  "      --any                      Use `any` instead of `unknown` as the placeholder type",
  "      --ignore-min-and-max-items Ignore minItems/maxItems instead of emitting tuples",
  "      --max-items <MAX_ITEMS>    Largest maxItems - minItems expanded into tuples (-1: no cap)",
  "      --strict-index-signatures  Append `| undefined` to index signatures",
  "      --unreachable-definitions  Keep definitions that are not reachable from the root"]

/-- Parameters that stand everywhere. -/
def generalLines : List String := [
  "  -v, --verbose                  Enable verbose logging",
  "  -h, --help                     Print help"]

/-- The lines of help about a topic. -/
def Topic.lines : Topic → List String
  | .general => [
    "Compile JSON Schema documents into TypeScript declarations", "",
    "Usage: jsonschema-ts [OPTIONS] <COMMAND>", "",
    "Commands:",
    "  compile  Compile a schema and write the declarations",
    "  check    Run the whole pipeline and report errors without writing output",
    "  help     Print this message or the help of the given subcommand(s)", "",
    "Options:"] ++ generalLines ++ ["  -V, --version                  Print version"]
  | .compile => [
    "Compile a schema and write the declarations", "",
    "Usage: jsonschema-ts compile [OPTIONS] <INPUT>", "",
    "Arguments:", "  <INPUT>  Input JSON Schema file", "", "Options:"] ++ parameterLines ++
    ["  -o, --output <OUTPUT>          Output file (defaults to stdout if not specified)"] ++
    generalLines
  | .check => [
    "Run the whole pipeline and report errors without writing output", "",
    "Usage: jsonschema-ts check [OPTIONS] <INPUT>", "",
    "Arguments:", "  <INPUT>  Input JSON Schema file", "", "Options:"] ++ parameterLines ++
    generalLines
  | .help => [
    "Print this message or the help of the given subcommand(s)", "",
    "Usage: jsonschema-ts help [COMMAND]"]

/-- The text of help about a topic. -/
def Topic.text (t : Topic) : String := String.join (t.lines.map (· ++ "\n"))

/-- The hint for a call that makes no sense. -/
def misuseText : String := "error: invalid arguments\n\nFor more information, try '--help'.\n"

end CommandLine
end SchemaTypings
