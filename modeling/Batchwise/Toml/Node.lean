namespace Batchwise.Toml

/-! The tree that a TOML document describes, with the rules by which headers
and dotted keys may add to it. Only the values that settings can have are kept:
numbers and arrays with elements are not among them. -/

inductive Origin where
  /-- Named on the way to another table, in a header. -/
  | implied
  /-- Named on the way to a key, in a dotted key. -/
  | dotted
  /-- Written by a header of its own, or the document itself. -/
  | header
  deriving DecidableEq, Repr

inductive Node where
  | string (text : List Char)
  | boolean (value : Bool)
  | date (text : List Char)
  | emptyArray
  /-- A table written in braces; nothing can be added to it. -/
  | braces (entries : List (List Char × Node))
  | table (origin : Origin) (entries : List (List Char × Node))

abbrev Key := List Char

/-- A table that is still open for additions. -/
structure Table where
  origin : Origin
  entries : List (Key × Node)

namespace Table

def empty (origin : Origin) : Table := ⟨origin, []⟩

def get? (table : Table) (key : Key) : Option Node :=
  (table.entries.find? (·.1 = key)).map (·.2)

def set (table : Table) (key : Key) (node : Node) : Table :=
  ⟨table.origin, table.entries.filter (·.1 ≠ key) ++ [(key, node)]⟩

def toNode (table : Table) : Node := .table table.origin table.entries

/-- Change the table at the end of a path, making the tables on the way. Dotted
keys may not pass through a table that has a header. -/
def changeAt (dotted : Bool) (change : Table → Option Table) : List Key → Table → Option Table
  | [], table => change table
  | key :: path, table =>
    match table.get? key with
    | none => do
      let inner ← changeAt dotted change path (empty (if dotted then .dotted else .implied))
      pure (table.set key inner.toNode)
    | some (.table origin entries) =>
      if dotted && origin = .header then none
      else do
        let inner ← changeAt dotted change path ⟨origin, entries⟩
        pure (table.set key inner.toNode)
    | some _ => none

/-- Add an entry whose key may be dotted. A dotted key adds only to tables that
dotted keys have made. -/
def addEntry (path : List Key) (key : Key) (node : Node) (table : Table) : Option Table :=
  changeAt true
    (fun inner =>
      if (!path.isEmpty && inner.origin ≠ .dotted) || (inner.get? key).isSome then none
      else some (inner.set key node))
    path table

/-- Open the table of a header. It must not have been written before. -/
def openHeader (path : List Key) (key : Key) (table : Table) : Option Table :=
  changeAt false
    (fun inner =>
      match inner.get? key with
      | none => some (inner.set key (.table .header []))
      | some (.table .implied entries) => some (inner.set key (.table .header entries))
      | some _ => none)
    path table

def addBelow (header path : List Key) (key : Key) (node : Node) (table : Table) :
    Option Table :=
  changeAt false (addEntry path key node) header table

end Table

end Batchwise.Toml
