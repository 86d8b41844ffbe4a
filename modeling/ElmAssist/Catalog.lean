/-!
# Catalogs

A finite map kept as pairs in increasing order of their keys, so that two catalogs with the same
contents are the same value and a listing needs no sorting.

* `Pairs` has the operations on plain lists of pairs, for values that hold catalogs of themselves.
* `Catalog` carries the order of its pairs: every catalog there is has it.
-/

namespace ElmAssist

/-! ### Lists of pairs -/

namespace Pairs

variable {κ α : Type} [Ord κ]

/-- The value found for a key in a list of pairs. -/
def find (k : κ) : List (κ × α) → Option α
  | [] => none
  | (j, a) :: rest =>
    match compare k j with
    | .eq => some a
    | _ => find k rest

/-- A pair put into a list in order, in place of one with the same key. -/
def place (k : κ) (a : α) : List (κ × α) → List (κ × α)
  | [] => [(k, a)]
  | (j, b) :: rest =>
    match compare k j with
    | .lt => (k, a) :: (j, b) :: rest
    | .eq => (k, a) :: rest
    | .gt => (j, b) :: place k a rest

/-- A list without the pairs of a key. -/
def drop (k : κ) (entries : List (κ × α)) : List (κ × α) :=
  entries.filter fun e => compare k e.1 != .eq

/-- Each key is less than those after it. -/
def Increasing (entries : List (κ × α)) : Prop :=
  entries.Pairwise fun e f => compare e.1 f.1 = .lt

theorem mem_place {k : κ} {a : α} {e : κ × α} : ∀ {entries : List (κ × α)},
    e ∈ place k a entries → e = (k, a) ∨ e ∈ entries
  | [], h => Or.inl (List.mem_singleton.mp h)
  | (j, b) :: rest, h => by
    unfold place at h
    split at h
    · exact List.mem_cons.mp h
    · exact (List.mem_cons.mp h).imp_right (List.mem_cons_of_mem _)
    · rcases List.mem_cons.mp h with rfl | h
      · exact Or.inr List.mem_cons_self
      · exact (mem_place h).imp_right (List.mem_cons_of_mem _)

theorem Increasing.place [Std.TransOrd κ] {k : κ} {a : α} : ∀ {entries : List (κ × α)},
    Increasing entries → Increasing (place k a entries)
  | [], _ => List.pairwise_singleton ..
  | (j, b) :: rest, h => by
    obtain ⟨first, later⟩ := List.pairwise_cons.mp h
    unfold Pairs.place
    split
    · rename_i less
      refine h.cons fun e he => ?_
      rcases List.mem_cons.mp he with rfl | he
      · exact less
      · exact Std.TransCmp.lt_trans less (first e he)
    · rename_i same
      exact later.cons fun e he => Std.TransCmp.lt_of_eq_of_lt same (first e he)
    · rename_i more
      refine (Increasing.place later).cons fun e he => ?_
      rcases mem_place he with rfl | he
      · exact Std.OrientedCmp.lt_of_gt more
      · exact first e he

theorem Increasing.drop {k : κ} {entries : List (κ × α)} (h : Increasing entries) :
    Increasing (drop k entries) :=
  List.Pairwise.filter _ h

end Pairs

/-! ### Catalogs -/

/-- A finite map: pairs in increasing order of their keys. -/
structure Catalog (κ α : Type) [Ord κ] where
  entries : List (κ × α)
  increasing : Pairs.Increasing entries
  deriving DecidableEq, Repr

namespace Catalog

variable {κ α : Type} [Ord κ]

/-- The catalog with no entries. -/
def empty : Catalog κ α := ⟨[], .nil⟩

instance : Inhabited (Catalog κ α) := ⟨empty⟩

/-- The value of a key. -/
def get? (c : Catalog κ α) (k : κ) : Option α :=
  Pairs.find k c.entries

/-- The key has a value. -/
def contains (c : Catalog κ α) (k : κ) : Bool :=
  (c.get? k).isSome

/-- The catalog without a key. -/
def erase (c : Catalog κ α) (k : κ) : Catalog κ α :=
  ⟨Pairs.drop k c.entries, c.increasing.drop⟩

/-- The keys in order. -/
def keys (c : Catalog κ α) : List κ :=
  c.entries.map Prod.fst

/-- The values in the order of their keys. -/
def values (c : Catalog κ α) : List α :=
  c.entries.map Prod.snd

/-- How many keys have a value. -/
def size (c : Catalog κ α) : Nat :=
  c.entries.length

/-- No key has a value. -/
def isEmpty (c : Catalog κ α) : Bool :=
  c.entries.isEmpty

variable [Std.TransOrd κ]

/-- The catalog with the value of one key set. -/
def insert (c : Catalog κ α) (k : κ) (a : α) : Catalog κ α :=
  ⟨Pairs.place k a c.entries, c.increasing.place⟩

/-- The catalog with a value for a key that may have one already; then it keeps its own. -/
def insertNew (c : Catalog κ α) (k : κ) (a : α) : Catalog κ α :=
  if c.contains k then c else c.insert k a

/-- Each pair put in, later ones over earlier ones. -/
def insertAll (c : Catalog κ α) (pairs : List (κ × α)) : Catalog κ α :=
  pairs.foldl (fun c e => c.insert e.1 e.2) c

/-- The catalog of a list of pairs, later ones over earlier ones. -/
def ofList (pairs : List (κ × α)) : Catalog κ α :=
  empty.insertAll pairs

/-- The value of a key with one more item at its end. -/
def append (c : Catalog κ (List α)) (k : κ) (a : α) : Catalog κ (List α) :=
  c.insert k ((c.get? k).getD [] ++ [a])

end Catalog

end ElmAssist
