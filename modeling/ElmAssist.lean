import ElmAssist.Main
import ElmAssist.Proofs.Board.Convergence
import ElmAssist.Proofs.Board.Live
import ElmAssist.Proofs.Board.Mirror
import ElmAssist.Proofs.Board.Removal
import ElmAssist.Proofs.Board.Tally
import ElmAssist.Proofs.Channel.Compiler
import ElmAssist.Proofs.Channel.Problems
import ElmAssist.Proofs.Channel.Ranges
import ElmAssist.Proofs.Channel.Timers
import ElmAssist.Proofs.Diagnostic.Defects
import ElmAssist.Proofs.Disk.Path
import ElmAssist.Proofs.Forest.Index
import ElmAssist.Proofs.Forest.Race
import ElmAssist.Proofs.Hint.Comment
import ElmAssist.Proofs.Name.Definition
import ElmAssist.Proofs.Name.Locality
import ElmAssist.Proofs.Name.Qualified
import ElmAssist.Proofs.Project.Sources
import ElmAssist.Proofs.Settings.Merge
import ElmAssist.Proofs.Text.Ansi
import ElmAssist.Proofs.Text.Changes
import ElmAssist.Proofs.Text.Places
import ElmAssist.Proofs.Text.Splice
import ElmAssist.Proofs.Tree.Cursor
import ElmAssist.Proofs.Tree.Relatives
import ElmAssist.Proofs.Workspace.Agreement
import ElmAssist.Proofs.Workspace.Deletion
import ElmAssist.Proofs.Workspace.Entries
import ElmAssist.Proofs.Workspace.Failure
import ElmAssist.Proofs.Workspace.Linting
import ElmAssist.Proofs.Workspace.Routing
import ElmAssist.Proofs.Workspace.Spellings
import ElmAssist.Proofs.Workspace.Staleness
import ElmAssist.Text.Splice
