import ModelDepot.Console.Arguments

/-!
# Usage

What the program says about itself, and about a command line that it cannot read.
-/

namespace ModelDepot.Console

def programName : String := "riffctl"

def programVersion : String := "0.1.0"

def usage : List String :=
  ["Usage: " ++ programName ++ " [OPTIONS] <COMMAND>",
    "",
    "Commands:",
    "  list          List the models the backend knows about [--recommended | --downloaded]",
    "  download      Download one model",
    "  download-all  Download several models at once (the recommended set when none are named)",
    "  remove        Remove a downloaded model",
    "  updates       Check for a KC-Riff update [--apply]",
    "  health        Check that the backend is healthy",
    "  help          Print this message",
    "",
    "Options:",
    "      --endpoint <ENDPOINT>  Service endpoint used when no native binding is found",
    "      --library <LIBRARY>    Native binding to try before the default locations",
    "      --timeout <TIMEOUT>    Give up on a download after this many seconds",
    "  -h, --help                 Print help",
    "  -V, --version              Print version"]

namespace ArgumentError

/-- What is wrong with a command line, in one line; none where the usage says it all. -/
def fault? : ArgumentError → Option String
  | help | version | nothingAsked => none
  | missingCommand => some "a command is required but was not given"
  | unknownCommand word => some ("unrecognized command '" ++ word ++ "'")
  | unknownArgument word => some ("unexpected argument '" ++ word ++ "' found")
  | conflict word => some ("the argument '--" ++ word ++ "' cannot be used here")
  | missingValue word => some ("a value is required for '--" ++ word ++ "' but none was given")
  | badValue word value => some ("invalid value '" ++ value ++ "' for '--" ++ word ++ "'")
  | surplusValue word => some ("unexpected value for '--" ++ word ++ "'")
  | missingName => some "a model name is required but was not given"

/-- What is shown for a command line without a command to run. -/
def lines (e : ArgumentError) : List String :=
  match e with
  | version => [programName ++ " " ++ programVersion]
  | e => (e.fault?.map fun fault => ["error: " ++ fault, ""]).getD [] ++ usage

end ArgumentError

end ModelDepot.Console
