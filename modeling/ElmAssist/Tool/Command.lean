import ElmAssist.Disk.Path
import ElmAssist.Fault

/-!
# Tool — Commands

What is asked of a tool, and what it answers. How a command is run is left open: a `Runner` gives
the output, or says why the tool did not start.
-/

namespace ElmAssist.Tool

/-- A tool with its arguments. It runs in the directory of a project. -/
structure Command where
  program : Path
  args : List String
  /-- The text given to the tool; none when its input is empty and closed. -/
  input : Option String
  deriving DecidableEq, Repr

/-- What a tool printed, and its exit code. -/
structure Output where
  code : Nat
  stdout : String
  stderr : String
  deriving DecidableEq, Repr

/-- The tool says that it succeeded. -/
def Output.succeeded (o : Output) : Bool :=
  o.code == 0

/-- A zero byte in the program or an argument would end it early. -/
def Command.hasZero (c : Command) : Bool :=
  c.program.bytes.contains 0 || c.args.any fun a => a.toList.contains '\x00'

/-- Runs a command in a directory. -/
abbrev Runner (m : Type → Type) := Path → Command → m (Except String Output)

/-- The output of a command; a tool that does not start is a fault. -/
def run [Monad m] (runner : Runner m) (directory : Path) (c : Command) :
    m (Except Fault Output) := do
  let answer ← if c.hasZero then pure (.error "nul byte found in provided data")
    else runner directory c
  return answer.mapError (.tool c.program.display)

end ElmAssist.Tool
