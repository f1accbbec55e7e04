import DeclAtlas.CommandLine.Arguments
import DeclAtlas.Service.Offer

/-!
# Help

What the program says about its commands, and what it says of arguments that make no command.
-/

namespace DeclAtlas.CommandLine

/-- The commands and options of the program. -/
def helpText : String := "\n".intercalate [
  "Structural queries over registration macros, schemas and the build graph",
  "",
  "Usage: declmap [OPTIONS] <COMMAND>",
  "",
  "Commands:",
  "  interface <TYPE_NAME>      Extract the interface a type registers",
  "  ordinal <FILE> [RECORD]    Report the next free ordinal of a schema record",
  "  deps <TARGET>              Query forward or reverse build dependencies",
  "                             (--direction rdeps|deps, --depth N)",
  "  compat                     List compatibility flags, or classify them at a date",
  "                             (--date DATE, --flag TEXT)",
  "  xref <SYMBOL>              Cross-reference a symbol across headers and sources",
  "  init                       Generate a starter .declmap.toml configuration file",
  "  mcp                        Serve the queries as MCP tools over stdio",
  "",
  "Options:",
  "      --root <ROOT>          Project root [default: .]",
  "  -f, --format <FORMAT>      Output format: markdown (default) or json",
  "  -o, --output <OUTPUT>      Output file (defaults to stdout)",
  "  -v, --verbose              Log external tool invocations to stderr",
  "  -h, --help                 Print help",
  "  -V, --version              Print version",
  ""]

/-- What the program says of its version. -/
def versionText : String := Service.profile.name ++ " " ++ Service.profile.version ++ "\n"

/-- What is wrong with arguments that make no command. -/
def UsageError.reason : UsageError → String
  | .displayHelp => "help is asked for"
  | .displayVersion => "the version is asked for"
  | .nothingGiven => "no command is given"
  | .missingSubcommand => "a command is missing"
  | .invalidSubcommand => "there is no such command"
  | .unknownArgument => "an argument is not known"
  | .missingRequiredArgument => "an argument is missing"
  | .invalidValue => "a value is missing or not allowed"
  | .unreadableValue => "a value cannot be read"
  | .repeatedArgument => "an option is given twice"
  | .unneededValue => "a switch is given a value"

/-- The text on standard output for arguments that make no command. -/
def UsageError.output : UsageError → String
  | .displayHelp => helpText
  | .displayVersion => versionText
  | _ => ""

/-- The text on standard error for arguments that make no command. -/
def UsageError.complaint : UsageError → String
  | .displayHelp => ""
  | .displayVersion => ""
  | .nothingGiven => helpText
  | e => "error: " ++ e.reason ++ "\n\n" ++ helpText

end DeclAtlas.CommandLine
