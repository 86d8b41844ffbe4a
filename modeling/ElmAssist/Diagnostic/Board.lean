import ElmAssist.Catalog
import ElmAssist.Diagnostic.Basic

/-!
# Diagnostic — The board

The newest list of every channel for every file, and what is published of it.

Each run of a channel has a sequence number and reports whole lists. A list replaces the channel's
earlier one for that file unless that one has a higher sequence. A file that is removed leaves a
mark: lists of runs up to the mark no longer count, a list of a later run brings the file back.
-/

namespace ElmAssist

/-- Lists of diagnostics by uri. -/
abbrev Findings := Catalog String (List Diagnostic)

namespace Findings

/-- The uris with a diagnostic. -/
def troubled (found : Findings) : List String :=
  (found.entries.filter fun e => !e.2.isEmpty).map Prod.fst

/-- An empty list for every uri given, then the lists found. -/
def withCleared (uris : List String) (found : Findings) : Findings :=
  (Catalog.ofList (uris.map fun uri => (uri, []))).insertAll found.entries

end Findings

/-- The lists of one run of a channel. -/
structure Report where
  channel : Channel
  sequence : Nat
  files : Findings
  deriving DecidableEq, Repr

/-- A channel's list for a file, and the sequence of the run it is from. -/
structure Slot where
  sequence : Nat
  diagnostics : List Diagnostic
  deriving DecidableEq, Repr

/-- A slot for each channel. -/
structure Slots where
  linter : Option Slot
  live : Option Slot
  compiler : Option Slot
  deriving DecidableEq, Repr

namespace Slots

/-- No list from any channel. -/
def empty : Slots := ⟨none, none, none⟩

/-- The slot of a channel. -/
def get (s : Slots) : Channel → Option Slot
  | .linter => s.linter
  | .live => s.live
  | .compiler => s.compiler

/-- The slots with that of one channel filled. -/
def set (s : Slots) (c : Channel) (slot : Slot) : Slots :=
  match c with
  | .linter => { s with linter := some slot }
  | .live => { s with live := some slot }
  | .compiler => { s with compiler := some slot }

/-- Some channel has a list. -/
def isFilled (s : Slots) : Bool :=
  Channel.all.any fun c => (s.get c).isSome

/-- The lists of all channels, in their order. -/
def merge (s : Slots) : List Diagnostic :=
  Channel.all.flatMap fun c => ((s.get c).map Slot.diagnostics).getD []

end Slots

/-- The merged list of a file. -/
structure FileDiagnostics where
  uri : String
  diagnostics : List Diagnostic
  deriving DecidableEq, Repr

/-- The merged lists of all files, and the files that no longer have one. -/
structure Publication where
  files : List FileDiagnostics
  cleared : List String
  deriving DecidableEq, Repr, Inhabited

namespace Publication

/-- Nothing to show. -/
def empty : Publication := ⟨[], []⟩

/-- The list of a file. -/
def get? (p : Publication) (uri : String) : Option (List Diagnostic) :=
  (p.files.find? fun f => f.uri == uri).map FileDiagnostics.diagnostics

/-- How many diagnostics there are. -/
def total (p : Publication) : Nat :=
  (p.files.flatMap FileDiagnostics.diagnostics).length

end Publication

/-- What the channels and the workspace tell the board. -/
inductive Message where
  | report (r : Report)
  /-- The file was removed at the given sequence. -/
  | forget (uri : String) (sequence : Nat)
  /-- Someone asks for the lists; the answer is `Board.current`. -/
  | snapshot
  deriving DecidableEq, Repr

/-- The slots of every file, and the marks of removed files. -/
structure Board where
  files : Catalog String Slots
  removed : Catalog String Nat
  deriving DecidableEq, Repr, Inhabited

namespace Board

/-- The board before any report. -/
def empty : Board := ⟨.empty, .empty⟩

/-- The slots of a file. -/
def slotsOf (b : Board) (uri : String) : Slots :=
  (b.files.get? uri).getD .empty

/-- The slot of a channel for a file. -/
def slot? (b : Board) (uri : String) (c : Channel) : Option Slot :=
  (b.slotsOf uri).get c

/-- The file was removed at the sequence or later. -/
def isRemovedSince (b : Board) (uri : String) (sequence : Nat) : Bool :=
  (b.removed.get? uri).any (sequence ≤ ·)

/-- The board holds a list of the channel for the file, of a later run. -/
def isOutdated (b : Board) (uri : String) (c : Channel) (sequence : Nat) : Bool :=
  (b.slot? uri c).any (sequence < ·.sequence)

/-- Gives a file an entry; it is no longer removed. -/
def reopen (b : Board) (uri : String) : Board :=
  ⟨b.files.insertNew uri .empty, b.removed.erase uri⟩

/-- Fills the slot of a channel for a file. -/
def fill (b : Board) (uri : String) (c : Channel) (slot : Slot) : Board :=
  { b with files := b.files.insert uri ((b.slotsOf uri).set c slot) }

/-- Takes in the list of one file of a report, unless the file was removed since or the board has a
later list. Counts the lists taken in. -/
def take (c : Channel) (sequence : Nat) (b : Board × Nat) (file : String × List Diagnostic) :
    Board × Nat :=
  if b.1.isRemovedSince file.1 sequence then b
  else
    let opened := b.1.reopen file.1
    if opened.isOutdated file.1 c sequence then (opened, b.2)
    else (opened.fill file.1 c ⟨sequence, file.2⟩, b.2 + 1)

/-- Takes in a report; gives how many slots it filled. -/
def apply (b : Board) (r : Report) : Board × Nat :=
  r.files.entries.foldl (take r.channel r.sequence) (b, 0)

/-- Removes a file at a sequence. -/
def remove (b : Board) (uri : String) (sequence : Nat) : Board :=
  ⟨b.files.erase uri, b.removed.insert uri (max ((b.removed.get? uri).getD sequence) sequence)⟩

/-- The merged list of a file, if it has an entry. -/
def mergedFor? (b : Board) (uri : String) : Option (List Diagnostic) :=
  (b.files.get? uri).map Slots.merge

/-- The merged list of every file with a filled slot, in the order of uris. -/
def merged (b : Board) : List FileDiagnostics :=
  (b.files.entries.filter fun e => e.2.isFilled).map fun e => ⟨e.1, e.2.merge⟩

/-- How many files have an entry. -/
def size (b : Board) : Nat :=
  b.files.size

/-- All that is to show now. -/
def current (b : Board) : Publication :=
  ⟨b.merged, []⟩

/-- Takes in a message. A publication follows when the lists may have changed. -/
def receive (b : Board) : Message → Board × Option Publication
  | .report r =>
    let (next, filled) := b.apply r
    (next, if 0 < filled then some next.current else none)
  | .forget uri sequence =>
    let next := b.remove uri sequence
    (next, if b.files.contains uri then some ⟨next.merged, [uri]⟩ else none)
  | .snapshot => (b, none)

/-- Takes in messages in order; gives the publications in order. -/
def receiveAll (b : Board) : List Message → Board × List Publication
  | [] => (b, [])
  | m :: ms =>
    let (b, p) := b.receive m
    let (b, ps) := b.receiveAll ms
    (b, p.toList ++ ps)

end Board

end ElmAssist
