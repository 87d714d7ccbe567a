import FilterQuery.Toml.Basic

/-!
# Building tables

A document names its tables in three ways: by a header of their own, by a header
of a table inside them, and by a dotted key. How a table came about decides what
may still be added to it. A table with a header of its own takes no second
header and is not reached by dotted keys; one that was only implied by a header
may still get its own; one that a dotted key opened grows by dotted keys only. A
path that meets an array of tables goes on in the last of them.
-/

namespace FilterQuery.Toml

/-- How a table came about. -/
inductive TableOrigin where
  /-- It has a header of its own. -/
  | header
  /-- The header of a table inside it implied it. -/
  | implied
  /-- A dotted key opened it. -/
  | dotted
  deriving DecidableEq, Repr, Inhabited

/-- What a key of a table under construction holds. -/
inductive Item where
  /-- A value that is complete. -/
  | value (v : Value)
  /-- A table that may still grow. -/
  | table (origin : TableOrigin) (entries : List (String × Item))
  /-- An array of tables, each with a header, the last of which may grow. -/
  | tables (elements : List (List (String × Item)))
  deriving Repr, Inhabited

/-- The keys of a table under construction, in the order of the document. -/
abbrev Entries := List (String × Item)

namespace Entries

/-- The entries with another item under a key that is there. -/
def replace (key : String) (item : Item) (entries : Entries) : Entries :=
  entries.map fun (k, old) => if k = key then (k, item) else (k, old)

/-- The list with its last element changed. -/
def mapLast (f : Entries → Option Entries) : List Entries → Option (List Entries)
  | [] => none
  | [last] => (f last).map ([·])
  | first :: rest => (mapLast f rest).map (first :: ·)

/-- Changes the table at the end of a path of headers; tables that are missing
on the way are implied. -/
def within (f : Entries → Option Entries) : List String → Entries → Option Entries
  | [], entries => f entries
  | key :: path, entries =>
    match entries.lookup key with
    | none => (within f path []).map fun inner => entries ++ [(key, .table .implied inner)]
    | some (.table origin inner) =>
      (within f path inner).map fun inner => entries.replace key (.table origin inner)
    | some (.tables elements) =>
      (mapLast (within f path) elements).map fun elements =>
        entries.replace key (.tables elements)
    | some (.value _) => none

/-- Gives a table its header. -/
def openTable (key : String) (entries : Entries) : Option Entries :=
  match entries.lookup key with
  | none => some (entries ++ [(key, .table .header [])])
  | some (.table .implied inner) => some (entries.replace key (.table .header inner))
  | some _ => none

/-- Starts the next table of an array of tables. -/
def openElement (key : String) (entries : Entries) : Option Entries :=
  match entries.lookup key with
  | none => some (entries ++ [(key, .tables [[]])])
  | some (.tables elements) => some (entries.replace key (.tables (elements ++ [[]])))
  | some _ => none

/-- Adds a value under a dotted key: `path` is all of the key but its last part.
The table that gets the value has to be one that a dotted key opened; only on
the way to it may others be crossed. -/
def insert (key : String) (v : Value) : List String → Entries → Option Entries
  | [], entries =>
    match entries.lookup key with
    | none => some (entries ++ [(key, .value v)])
    | some _ => none
  | part :: path, entries =>
    match entries.lookup part with
    | none => (insert key v path []).map fun inner => entries ++ [(part, .table .dotted inner)]
    | some (.table origin inner) =>
      if origin = .header ∨ (path.isEmpty ∧ origin ≠ .dotted) then none
      else (insert key v path inner).map fun inner => entries.replace part (.table origin inner)
    | some (.tables elements) =>
      if path.isEmpty then none
      else (mapLast (insert key v path) elements).map fun elements =>
        entries.replace part (.tables elements)
    | some (.value _) => none

end Entries

mutual

/-- The value of an item, once nothing more is added. -/
def Item.finish : Item → Value
  | .value v => v
  | .table _ entries => .table (finishEntries entries)
  | .tables elements => .array (finishElements elements)

/-- The entries of a table, once nothing more is added. -/
def finishEntries : List (String × Item) → List (String × Value)
  | [] => []
  | (key, item) :: rest => (key, item.finish) :: finishEntries rest

/-- The elements of an array of tables, once nothing more is added. -/
def finishElements : List (List (String × Item)) → List Value
  | [] => []
  | entries :: rest => .table (finishEntries entries) :: finishElements rest

end

end FilterQuery.Toml
