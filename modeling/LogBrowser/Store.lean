/-!
# Sorted stores

A store of records kept in the order of a key computed from each record, at most one record per
key, read in ascending or descending key order. Inserting a record whose key is already present
replaces the old record and hands it back.

The records are kept as a list sorted by strictly increasing key, which is also the view by which
every operation is described: insertion puts a record at its place, retention filters, and the
direction only decides whether the snapshot is that list or its reverse.
-/

namespace LogBrowser

/-- Records ordered by a key, one per key, with a reading direction. -/
structure SortedStore (κ α : Type) where
  key : α → κ
  records : List α := []
  ascending : Bool := true

namespace SortedStore

variable {κ α : Type}

/-- An empty store with the given key and direction. -/
def empty (key : α → κ) (ascending : Bool) : SortedStore κ α :=
  { key := key, ascending := ascending }

/-- Puts a record into a key-sorted list, replacing a record of the same key; returns the list
and the replaced record. -/
def insertSorted [Ord κ] (key : α → κ) (v : α) : List α → List α × Option α
  | [] => ([v], none)
  | w :: ws =>
    match compare (key v) (key w) with
    | .lt => (v :: w :: ws, none)
    | .eq => (v :: ws, some w)
    | .gt =>
      let r := insertSorted key v ws
      (w :: r.1, r.2)

/-- Inserts a record; the record it replaces, if any, is returned. -/
def insert [Ord κ] (s : SortedStore κ α) (v : α) : SortedStore κ α × Option α :=
  let r := insertSorted s.key v s.records
  ({ s with records := r.1 }, r.2)

/-- Inserts records from left to right. -/
def extend [Ord κ] (s : SortedStore κ α) (vs : List α) : SortedStore κ α :=
  vs.foldl (fun s v => (s.insert v).1) s

/-- Removes every record. -/
def removeAll (s : SortedStore κ α) : SortedStore κ α := { s with records := [] }

/-- Replaces every record by the given ones, inserted from left to right. -/
def replaceAll [Ord κ] (s : SortedStore κ α) (vs : List α) : SortedStore κ α :=
  s.removeAll.extend vs

/-- Keeps the records that pass a test. -/
def retain (s : SortedStore κ α) (keep : α → Bool) : SortedStore κ α :=
  { s with records := s.records.filter keep }

/-- The records in the store's reading direction. -/
def snapshot (s : SortedStore κ α) : List α :=
  if s.ascending then s.records else s.records.reverse

/-- Reverses the reading direction. -/
def toggleDirection (s : SortedStore κ α) : SortedStore κ α := { s with ascending := !s.ascending }

/-- The number of records. -/
def size (s : SortedStore κ α) : Nat := s.records.length

/-- Whether the store holds no record. -/
def isEmpty (s : SortedStore κ α) : Bool := s.records.isEmpty

@[simp] theorem snapshot_toggleDirection (s : SortedStore κ α) :
    s.toggleDirection.snapshot = s.snapshot.reverse := by
  cases h : s.ascending <;> simp [snapshot, toggleDirection, h]

@[simp] theorem records_removeAll (s : SortedStore κ α) : s.removeAll.records = [] := rfl

end SortedStore

end LogBrowser
