import ElmAssist.Command.Answer
import ElmAssist.Snapshot

/-!
# Main

The command line. The arguments are the request; the machine that it is about comes as a snapshot,
one line of JSON on standard input. The answer goes to standard output, and what is said besides it
to standard error. No tool is started: a snapshot has no programs.
-/

namespace ElmAssist

/-- The version of the command line. -/
def version : String := "0.1.0"

/-- How requests are written. -/
def usageLines : List String :=
  ["Usage: elm-intel [OPTIONS] COMMAND",
    "",
    "Commands:",
    "  roots [PATH]                    the projects at or below a directory",
    "  modules [ROOT] [--duplicates]   the modules of a project (also: m)",
    "  definition FILE -l LINE -c CHARACTER",
    "                                  where the name there is defined (also: def)",
    "  hover FILE -l LINE -c CHARACTER",
    "                                  what is known of the name there",
    "  diagnostics [ROOT] [--no-compiler] [--no-linter] [--lsp]",
    "                                  the problems of a project (also: d)",
    "",
    "Options:",
    "  -f, --format text|json          how the answer is written",
    "  -v, --verbose                   more of it",
    "      --settings FILE             settings as an editor sends them",
    "  -h, --help",
    "  -V, --version"]

/-- What is wrong with the words of a command line. -/
def Command.Usage.message : Command.Usage → String
  | .help | .version | .nothing => ""
  | .missingSubcommand => "a command is missing"
  | .unknownSubcommand => "there is no such command"
  | .unknownWord => "there is a word too many, or an option that is not known"
  | .badValue => "the value of an option is missing or not allowed"
  | .unreadableValue => "the value of an option is no number"
  | .unneededValue => "an option that takes no value has one"
  | .repeated => "an option is there twice"
  | .missingWord => "a file or its position is missing"

/-- Says what is wrong with a command line, or shows what was asked for. -/
def reportUsage (u : Command.Usage) : IO Unit :=
  match u with
  | .version => IO.println ("elm-intel " ++ version)
  | .help => IO.print (Listing.ofLines usageLines)
  | .nothing => IO.eprint (Listing.ofLines usageLines)
  | u => IO.eprintln ("error: " ++ u.message)

/-- Answers a request about the machine on standard input, and gives the exit code. -/
def answerRequest (r : Request) : IO Nat := do
  let line ← (← IO.getStdin).getLine
  let s := Snapshot.ofJson ((Json.read? line).getD .null)
  let runner : Tool.Runner IO := fun _ _ => return .error DiskError.notFound.message
  match ← r.answer runner IO.eprintln s.parse s.machine with
  | .ok text =>
    IO.print text
    return 0
  | .error e =>
    IO.eprintln ("Error: " ++ e.message)
    return e.exitCode

end ElmAssist

/-- The command line. -/
def main (args : List String) : IO UInt32 := do
  match ElmAssist.Request.parse args with
  | .error u =>
    ElmAssist.reportUsage u
    return u.exitCode.toUInt32
  | .ok r => return (← ElmAssist.answerRequest r).toUInt32
