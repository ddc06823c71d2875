import TextTemplate.Document.Value

/-!
# Tables under construction

The tables of a TOML document are filled bit by bit: headers open them, dotted
keys open more of them, and a table that is only named on the way to another one
may still get a header of its own later.  What may be added depends on how a
table came about.

Main definitions:

- `Toml.Node` is a table or a value that has been written so far.
- `Toml.Entries.assign?` writes a value under a dotted key.
- `Toml.Entries.openTable?` and `Toml.Entries.openItem?` follow a header.
-/

namespace TextTemplate.Toml

/-- How a table came about. -/
inductive Origin
  /-- It has a header. -/
  | header
  /-- It is named in the header of a table inside it. -/
  | implied
  /-- It is named in a dotted key. -/
  | dotted
deriving DecidableEq, Repr

/-- What has been written under a key. -/
inductive Node
  /-- A value; nothing can be added to it. -/
  | value (value : Value)
  /-- A table. -/
  | table (origin : Origin) (entries : List (String × Node))
  /-- A list of tables, the last one first; additions go to that one. -/
  | tables (items : List (List (String × Node)))
deriving Inhabited

/-- The entries of a table. -/
abbrev Entries := List (String × Node)

namespace Entries

/-- Puts a node in place of the one under a key. -/
def replace (entries : Entries) (key : String) (node : Node) : Entries :=
  entries.map fun entry => if entry.1 == key then (key, node) else entry

/-- Changes the table at the end of a path.  Tables that are missing on the way
are added, as tables named in a dotted key or in a header; a dotted key must not
lead through a table that has a header. -/
def within? (added : Origin) (change : Origin → Entries → Option Entries) :
    (path : List String) → Origin → Entries → Option Entries
  | [], origin, entries => change origin entries
  | key :: path, _, entries =>
      match entries.lookup key with
      | none => do
          let inner ← within? added change path added []
          some (entries ++ [(key, .table added inner)])
      | some (.table origin inner) =>
          if added = .dotted ∧ origin = .header then none
          else do
            let inner ← within? added change path origin inner
            some (entries.replace key (.table origin inner))
      | some (.tables (last :: earlier)) => do
          let inner ← within? added change path .header last
          some (entries.replace key (.tables (inner :: earlier)))
      | some _ => none

/-- Writes a value under a dotted key.  The key must be new, and a table that the
dotted key leads to must have been opened by dotted keys alone. -/
def assign? (entries : Entries) (path : List String) (key : String) (value : Value) :
    Option Entries :=
  let write (origin : Origin) (table : Entries) : Option Entries :=
    if path ≠ [] ∧ origin ≠ .dotted then none
    else if (table.lookup key).isSome then none
    else some (table ++ [(key, .value value)])
  within? .dotted write path .header entries

/-- Follows the header of a table.  It must be new, or only named so far in
headers of tables inside it. -/
def openTable? (entries : Entries) (path : List String) (key : String) : Option Entries :=
  let write (_ : Origin) (table : Entries) : Option Entries :=
    match table.lookup key with
    | none => some (table ++ [(key, .table .header [])])
    | some (.table .implied inner) => some (table.replace key (.table .header inner))
    | some _ => none
  within? .implied write path .header entries

/-- Follows the header of one more table in a list of tables. -/
def openItem? (entries : Entries) (path : List String) (key : String) : Option Entries :=
  let write (_ : Origin) (table : Entries) : Option Entries :=
    match table.lookup key with
    | none => some (table ++ [(key, .tables [[]])])
    | some (.tables items) => some (table.replace key (.tables ([] :: items)))
    | some _ => none
  within? .implied write path .header entries

/-- Writes a value under a dotted key in the table of a header. -/
def assignIn? (entries : Entries) (header path : List String) (key : String) (value : Value) :
    Option Entries :=
  within? .implied (fun _ table => table.assign? path key value) header .header entries

end Entries

mutual

/-- The data of a node. -/
def Node.toValue : Node → Value
  | .value data => data
  | .table _ entries => .table (Node.entriesToValues entries)
  | .tables items => .list (Node.itemsToValues items).reverse

/-- The data of the entries of a table. -/
def Node.entriesToValues : List (String × Node) → List (String × Value)
  | [] => []
  | (key, node) :: rest => (key, node.toValue) :: Node.entriesToValues rest

/-- The data of a list of tables. -/
def Node.itemsToValues : List (List (String × Node)) → List Value
  | [] => []
  | entries :: rest => .table (Node.entriesToValues entries) :: Node.itemsToValues rest

end

/-- The table that the entries make up. -/
def Entries.toValue (entries : Entries) : Value := .table (Node.entriesToValues entries)

end TextTemplate.Toml
