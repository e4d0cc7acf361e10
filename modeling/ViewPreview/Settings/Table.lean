import ViewPreview.Settings.Value

/-!
# Tables of a Settings File

How the lines of a settings file build up its tables.  A table is opened once by a header, unless it
has only been implied by the headers of tables inside it.  A dotted key may add to tables that
dotted keys have made, but neither to a table with a header of its own nor to one that is written as
a value. No key is given twice.
-/

namespace ViewPreview.Settings

/-- What has made a table: the header of a table inside it, a dotted key, or its own header. -/
inductive Origin where
  | implied
  | dotted
  | headed
deriving Repr, DecidableEq

/-- What stands under a key: a value, a table, or the tables of a list with a header for each, the
last of which is still open. -/
inductive Node where
  | value (value : Value)
  | table (origin : Origin) (entries : List (String × Node))
  | tables (earlier : List (List (String × Node))) (last : List (String × Node))
deriving Repr, Inhabited

/-- The contents of a table in the order in which its keys first occur. -/
abbrev Entries : Type :=
  List (String × Node)

namespace Entries

/-- Put a node under a key, in place of the one there. -/
def put (key : String) (node : Node) : Entries → Entries
  | [] => [(key, node)]
  | entry :: entries =>
    if entry.1 == key then (key, node) :: entries else entry :: put key node entries

/-- Change the table that a header's keys lead to. -/
def changeAt (change : Entries → Option Entries) : (keys : List String) → Entries → Option Entries
  | [], entries => change entries
  | key :: keys, entries =>
    match entries.lookup key with
    | none => (changeAt change keys []).map fun inner ↦ entries.put key (.table .implied inner)
    | some (.table origin inner) =>
      (changeAt change keys inner).map fun inner ↦ entries.put key (.table origin inner)
    | some (.tables earlier last) =>
      (changeAt change keys last).map fun last ↦ entries.put key (.tables earlier last)
    | some (.value _) => none

/-- Open the table under a key. -/
def openTable (key : String) (entries : Entries) : Option Entries :=
  match entries.lookup key with
  | none => some (entries.put key (.table .headed []))
  | some (.table .implied inner) => some (entries.put key (.table .headed inner))
  | some _ => none

/-- Open one more table of the list under a key. -/
def openNext (key : String) (entries : Entries) : Option Entries :=
  match entries.lookup key with
  | none => some (entries.put key (.tables [] []))
  | some (.tables earlier last) => some (entries.put key (.tables (earlier ++ [last]) []))
  | some _ => none

/-- Give a value to a key that has none. -/
def define (key : String) (value : Value) (entries : Entries) : Option Entries :=
  match entries.lookup key with
  | none => some (entries.put key (.value value))
  | some _ => none

/-- Give a value to the key at the end of the dotted keys before it.  `origin` is that of the table
itself. -/
def defineAt (key : String) (value : Value) :
    (keys : List String) → (origin : Origin) → Entries → Option Entries
  | [], origin, entries => if origin == .dotted then entries.define key value else none
  | next :: keys, _, entries =>
    match entries.lookup next with
    | none =>
      (defineAt key value keys .dotted []).map fun inner ↦ entries.put next (.table .dotted inner)
    | some (.table .headed _) => none
    | some (.table origin inner) =>
      (defineAt key value keys origin inner).map fun inner ↦ entries.put next (.table origin inner)
    | some _ => none

/-- Give a value to a key, which may be dotted. -/
def assign (keys : List String) (value : Value) (entries : Entries) : Option Entries :=
  match keys.reverse with
  | [] => none
  | [key] => entries.define key value
  | key :: path => entries.defineAt key value path.reverse .implied

end Entries

mutual

/-- The value that a node amounts to. -/
def Node.finished : Node → Value
  | .value value => value
  | .table _ entries => .table (finishedEntries entries)
  | .tables earlier last => .array (finishedTables earlier ++ [.table (finishedEntries last)])

/-- The entries of a table with their values. -/
def finishedEntries : List (String × Node) → List (String × Value)
  | [] => []
  | (key, node) :: entries => (key, node.finished) :: finishedEntries entries

/-- The tables of a list. -/
def finishedTables : List (List (String × Node)) → List Value
  | [] => []
  | entries :: tables => .table (finishedEntries entries) :: finishedTables tables

end

end ViewPreview.Settings
