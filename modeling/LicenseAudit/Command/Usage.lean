import LicenseAudit.Command.Options
import LicenseAudit.Text.Quoted

/-!
# Commands and their usage

The commands of the program with their options, the help that each one shows, and the messages
about words that cannot be understood.
-/

namespace LicenseAudit

open Text

/-- A command, or the program itself. -/
inductive Command
  | program
  | check
  | filetypes
  | version
  deriving DecidableEq, Repr

namespace Command

/-- The commands by their names. -/
def names : List (Text × Command) :=
  [("check", check), ("filetypes", filetypes), ("version", version)]

/-- The command of a name. -/
def named? (s : Text) : Option Command := names.lookup s

/-- The words that call the command. -/
def path : Command → Text
  | program => "licensetool"
  | check => "licensetool check"
  | filetypes => "licensetool filetypes"
  | version => "licensetool version"

/-- What may follow the words that call the command. -/
def synopsis : Command → Text
  | program => "[OPTIONS] [COMMAND] [ARGS]..."
  | check => "[OPTIONS] PATH"
  | filetypes | version => "[OPTIONS]"

/-- The option that asks for help. -/
def helpOption : OptionSpec := { long := "--help", short := some 'h' }

/-- The options of the command. -/
def options : Command → List OptionSpec
  | program =>
    [{ long := "--quiet", short := some 'q' }, { long := "--verbose", short := some 'v' },
      { long := "--no-color" }, helpOption]
  | check =>
    [{ long := "--header", short := some 'H', kind := .valued },
      { long := "--standalone", short := some 'L', kind := .valued },
      { long := "--no-standalone" }, { long := "--fix", short := some 'f' },
      { long := "--years", kind := .valued }, { long := "--no-gitignore" },
      { long := "--exclude", short := some 'e', kind := .valued }, { long := "--no-config" },
      { long := "--config", kind := .valued }, { long := "--log-file", kind := .valued },
      { long := "--summary" }, helpOption]
  | filetypes => [{ long := "--long" }, helpOption]
  | version => [helpOption]

/-- The line that says how the command is called. -/
def usageLine (c : Command) : Text := "Usage: " ++ c.path ++ ' ' :: c.synopsis ++ ['\n']

/-- The help of the command after its usage line, line by line. -/
def helpLines : Command → List Text
  | program =>
    ["",
     "  Check and fix license headers and the standalone LICENSE file of a source",
     "  tree.",
     "",
     "Options:",
     "  -q, --quiet    Only report problems; silence warnings.",
     "  -v, --verbose  Increase log verbosity (-v info, -vv debug, -vvv trace).",
     "  --no-color     Disable colored output.",
     "  -h, --help     Show this message and exit.",
     "",
     "Commands:",
     "  check      Validate license headers and the standalone LICENSE file.",
     "  filetypes  List the supported file types and their comment syntax.",
     "  version    Show the current version of LicenseTool."]
  | check =>
    ["",
     "  Validate license headers and the standalone LICENSE file. Use --fix to repair.",
     "",
     "Options:",
     "  -H, --header PATH      Template with the canonical header license text",
     "                         [default: licenses/header.txt].",
     "  -L, --standalone PATH  Template for the root LICENSE file [default:",
     "                         licenses/standalone.txt].",
     "  --no-standalone        Skip the standalone LICENSE file check.",
     "  -f, --fix              Rewrite non-compliant files in place.",
     "  --years FILE|LIST      Per-file start years: a file of 'path:year' lines or a",
     "                         comma-separated list.",
     "  --no-gitignore         Do not read ignore patterns from the root .gitignore.",
     "  -e, --exclude PATTERN  Ignore files matching a git-wildmatch pattern",
     "                         (repeatable, ';'-separated).",
     "  --no-config            Do not discover a config file in the checked root.",
     "  --config FILE          Read settings from this TOML file (licensetool.toml or",
     "                         pyproject.toml).",
     "  --log-file FILE        Also append log records to this file.",
     "  --summary              Print outcome counts after the per-file report.",
     "  -h, --help             Show this message and exit.",
     "",
     "  Examples:",
     "",
     "  # Report files with a missing or stale header (exit code 2 if any) licensetool",
     "  check .",
     "",
     "  # Fix headers and LICENSE in place licensetool check --fix -H",
     "  licenses/header.txt -L licenses/standalone.txt ."]
  | filetypes =>
    ["",
     "  List the supported file types and their comment syntax.",
     "",
     "Options:",
     "  --long      Also show the comment syntax used when writing headers.",
     "  -h, --help  Show this message and exit."]
  | version =>
    ["",
     "  Show the current version of LicenseTool.",
     "",
     "Options:",
     "  -h, --help  Show this message and exit."]

/-- The help of the command, without a line feed at the end. -/
def help (c : Command) : Text := c.usageLine ++ joinWith ['\n'] c.helpLines

end Command

/-! ## Words that cannot be understood -/

/-- What is wrong with the words of a command line. -/
inductive UsageFault
  | option (f : OptionFault)
  | missingArgument (name : Text)
  | extraArguments (words : List Text)
  /-- There is no such command; the ones that may have been meant. -/
  | unknownCommand (name : Text) (similar : List Text)
  /-- A value of an option or argument, named as the help names it, is not fit for it. -/
  | unfitValue (name : Text) (reason : Text)
  deriving DecidableEq, Repr

/-- Words put in order. -/
def sortWords (ws : List Text) : List Text := ws.mergeSort precedes

/-- The question whether other words were meant, after a message about a word. -/
def similarQuestion : List Text → Text
  | [] => []
  | [w] => " Did you mean " ++ quoted w ++ "?"
  | ws => " (Did you mean one of: " ++ joinWith ", " ((sortWords ws).map quoted) ++ "?)"

namespace UsageFault

/-- The fault in words. -/
def message : UsageFault → Text
  | .option (.unknown name similar) =>
    "No such option " ++ quoted name ++ "." ++ similarQuestion similar
  | .option (.missingValue name) => "Option " ++ quoted name ++ " requires an argument."
  | .option (.unwantedValue name) => "Option " ++ quoted name ++ " does not take a value."
  | .missingArgument name => "Missing argument '" ++ name ++ "'."
  | .extraArguments [word] => "Got unexpected extra argument (" ++ word ++ ")"
  | .extraArguments words =>
    "Got unexpected extra arguments (" ++ joinWith [' '] words ++ ")"
  | .unknownCommand name similar =>
    "No such command " ++ quoted name ++ "." ++ similarQuestion similar
  | .unfitValue name reason => "Invalid value for " ++ name ++ ": " ++ reason

/-- Whether the usage of the command is shown with the fault. -/
def showsUsage : UsageFault → Bool
  | .option (.missingValue _) | .option (.unwantedValue _) => false
  | _ => true

/-- The whole report of a fault in the words of a command. -/
def report (c : Command) (f : UsageFault) : Text :=
  let usage : Text :=
    if f.showsUsage then
      c.usageLine ++ "Try '" ++ c.path ++ " --help' for help.\n\n"
    else []
  usage ++ "Error: " ++ f.message ++ ['\n']

end UsageFault

end LicenseAudit
