import ElmAssist.Workspace.Run

/-!
# Workspace — Sessions

A workspace together with the board that its messages go to, and all the workspaces of an editor.

A uri belongs to the workspace with the longest root above its path.
-/

namespace ElmAssist

/-- A workspace and its board. -/
structure Session where
  workspace : Workspace
  board : Board

namespace Session

variable {m : Type → Type} [Monad m]

/-- The session of a workspace just opened. -/
def start (w : Workspace) : Session := ⟨w, .empty⟩

/-- The board receives messages. Gives what is published. -/
def deliver (s : Session) (messages : List Message) : Session × List Publication :=
  let (board, published) := s.board.receiveAll messages
  ({ s with board }, published)

/-- Takes in a turn: its messages, then its jobs with theirs. -/
def settle (runner : Tool.Runner m) (machine : Machine) (s : Session) (t : Turn) :
    m (Session × List Publication) := do
  let (w, later) ← t.workspace.performAll runner machine t.inOrder
  return deliver { s with workspace := w } (t.messages ++ later)

/-- Checks the whole project. -/
def diagnoseAll (runner : Tool.Runner m) (machine : Machine) (s : Session) :
    m (Session × List Publication) := do
  let (w, messages) ← s.workspace.diagnoseAll runner machine
  return deliver { s with workspace := w } messages

end Session

/-- Sessions, longest root first. -/
structure Workspaces where
  sessions : List Session

namespace Workspaces

/-- No session. -/
def empty : Workspaces := ⟨[]⟩

/-- How long the root of a session is written. -/
def rootLength (s : Session) : Nat :=
  s.workspace.root.bytes.length

/-- The list with a session behind those whose root is at least as long. -/
def place (s : Session) : List Session → List Session
  | [] => [s]
  | t :: rest => if rootLength t < rootLength s then s :: t :: rest else t :: place s rest

/-- Adds a session. -/
def insert (ws : Workspaces) (s : Session) : Workspaces :=
  ⟨place s ws.sessions⟩

/-- The session that a uri belongs to. -/
def forUri? (ws : Workspaces) (uri : String) : Option Session :=
  ws.sessions.find? (·.workspace.contains uri)

/-- The session that a path belongs to. -/
def forPath? (ws : Workspaces) (m : Machine) (p : Path) : Option Session :=
  ws.forUri? (Project.uriOf m p)

/-- The sessions with one of them changed. -/
def update (ws : Workspaces) (s : Session) : Workspaces :=
  ⟨ws.sessions.map fun t => if t.workspace.root = s.workspace.root then s else t⟩

/-- Opens a root with its settings and those that an editor sent. -/
def openRoot (parse : Parser) (m : Machine) (sent : Option Json) (root : Path) :
    Except Fault Session := do
  let settings ← (← Settings.load m root).mergeSent sent
  let w ← Workspace.openWith m root settings
  return .start (w.load parse m).1

/-- Opens every root at or below a path; those that cannot be opened are left out. -/
def discover (parse : Parser) (m : Machine) (start : Path) (sent : Option Json) : Workspaces :=
  ((Project.discover m start).filterMap fun root =>
    (openRoot parse m sent root).toOption).foldl insert empty

end Workspaces

end ElmAssist
