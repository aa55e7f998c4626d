import Batchwise.Memory.Column

namespace Batchwise.Memory

/-! A database of tables in memory. The statements of a text are executed in
order and the first that fails ends it. Each completed statement tells how many
rows the last insertion or deletion has changed. -/

structure Table where
  name : List Char
  columns : List (List Char × ColumnType)
  rows : List (List Cell)
  source : List Char
  deriving DecidableEq, Repr

inductive Access where
  | full
  | readOnly
  | none
  deriving DecidableEq, Repr

structure Tables where
  access : Access
  tables : List Table
  /-- The rows changed by the last insertion or deletion. -/
  changes : Nat
  deriving DecidableEq, Repr

namespace Tables

def empty (access : Access) : Tables := ⟨access, [], 0⟩

/-! The database keeps one table that lists the others, and one for temporary
tables, of which there are none. Both have a second name. -/

def catalogName : List Char := "sqlite_master".toList

def temporaryCatalogName : List Char := "sqlite_temp_master".toList

def isCatalog (name : List Char) : Bool :=
  sameName name catalogName || sameName name "sqlite_schema".toList

def isTemporaryCatalog (name : List Char) : Bool :=
  sameName name temporaryCatalogName || sameName name "sqlite_temp_schema".toList

def catalogColumns : List (List Char × ColumnType) :=
  [("type".toList, .text), ("name".toList, .text), ("tbl_name".toList, .text),
    ("rootpage".toList, .integer), ("sql".toList, .text)]

def catalogRow (index : Nat) (table : Table) : List Cell :=
  [.text "table".toList, .text table.name, .text table.name, .integer (index + 2 : Nat),
    .text ("CREATE TABLE ".toList ++ table.source)]

def find? (tables : Tables) (name : List Char) : Option Table :=
  if isCatalog name then
    some ⟨catalogName, catalogColumns, tables.tables.mapIdx catalogRow, []⟩
  else if isTemporaryCatalog name then some ⟨temporaryCatalogName, catalogColumns, [], []⟩
  else tables.tables.find? (sameName name ·.name)

def lookUp (tables : Tables) (name : List Char) : Except Failure Table :=
  if tables.access = .none then .error .notDatabase
  else
    match tables.find? name with
    | some table => .ok table
    | none => .error (.noTable name)

def lookUpModifiable (tables : Tables) (name : List Char) : Except Failure Table := do
  let table ← tables.lookUp name
  if isCatalog name || isTemporaryCatalog name then throw (.notModifiable table.name)
  return table

def isReservedName (name : List Char) : Bool :=
  sameName (name.take 7) "sqlite_".toList

def checkName (tables : Tables) (token : Token) : Except Failure Unit :=
  if isReservedName token.text then .error (.reservedName token.text)
  else if tables.access = .none then .error .notDatabase
  else if (tables.find? token.text).isSome then .error (.tableExists token.source)
  else .ok ()

def replace (tables : Tables) (table : Table) (changes : Nat) : Tables :=
  { tables with
    tables := tables.tables.map fun other =>
      if sameName other.name table.name then table else other
    changes }

/-- A column of literals has no type, and only its strings can be read. -/
def literalCell : Cell → Cell
  | .text value => .text value
  | _ => .null

inductive Selected where
  | column (index : Nat) (column : Column) (type : ColumnType)
  | literal (column : Column) (cell : Cell)

def Selected.heading : Selected → Column
  | column _ heading _ | literal heading _ => heading

def Selected.cell (row : List Cell) : Selected → Cell
  | column index _ type => type.load (row[index]?.getD .null)
  | literal _ cell => cell

def selectColumn (index : Nat) (column : List Char × ColumnType) (name : List Char) : Selected :=
  .column index ⟨name, column.2.name⟩ column.2

def position? (columns : List (List Char × ColumnType)) (name : List Char) : Option Nat :=
  columns.findIdx? (sameName name ·.1)

def selectOperand (columns : List (List Char × ColumnType)) (operand : Operand)
    (heading : Option (List Char)) (source : List Char) : Except Failure Selected :=
  let literal (cell : Cell) : Selected :=
    .literal ⟨heading.getD source, "NULL"⟩ (literalCell cell)
  match operand with
  | .literal cell => .ok (literal cell)
  | .column name otherwise =>
    match (position? columns name).bind fun index => (columns[index]?).map (index, ·) with
    | some (index, column) => .ok (selectColumn index column (heading.getD column.1))
    | none =>
      match otherwise with
      | some cell => .ok (literal cell)
      | none => .error (.noColumn name)

def selectItem (columns : List (List Char × ColumnType)) : Item → Except Failure (List Selected)
  | .all => .ok (columns.mapIdx fun index column => selectColumn index column column.1)
  | .operand operand heading source =>
    (selectOperand columns operand heading source).map ([·])

def select (columns : List (List Char × ColumnType)) (rows : List (List Cell))
    (items : List Item) : Except Failure (List Step) := do
  let selected := (← items.mapM (selectItem columns)).flatten
  return rows.map fun row => .row (selected.map Selected.heading) (selected.map (Selected.cell row))

def valueOf : Operand → Except Failure Cell
  | .literal cell | .column _ (some cell) => .ok cell
  | .column name none => .error (.noColumn name)

/-- The values of rows, of which the last is looked at first. -/
def valuesOf (rows : List (List Operand)) : Except Failure (List (List Cell)) :=
  (rows.reverse.mapM (List.mapM valueOf)).map List.reverse

def insert (tables : Tables) (name : List Char) (rows : List (List Operand)) :
    Except Failure Tables := do
  let table ← tables.lookUpModifiable name
  let cells ← valuesOf rows
  let width := (cells.head?.map List.length).getD 0
  if cells.any (·.length ≠ width) then throw .unevenRows
  if width ≠ table.columns.length then
    throw (.wrongWidth name table.columns.length width)
  let stored := cells.map fun row =>
    row.zipWith (fun cell column => column.2.store cell) table.columns
  return tables.replace { table with rows := table.rows ++ stored } stored.length

def run (tables : Tables) : Statement → Except Failure (List Step × Tables)
  | .create definition =>
    let table : Table := ⟨definition.table, definition.columns, [], definition.source⟩
    if tables.access = .full then .ok ([], { tables with tables := tables.tables ++ [table] })
    else .error .readOnly
  | .insert name rows => (tables.insert name rows).map fun tables => ([], tables)
  | .delete name => do
    let table ← tables.lookUpModifiable name
    return ([], tables.replace { table with rows := [] } table.rows.length)
  | .select items none =>
    if items.contains .all then .error .noTables
    else (select [] [[]] items).map fun steps => (steps, tables)
  | .select items (some name) => do
    let table ← tables.lookUp name
    (select table.columns table.rows items).map fun steps => (steps, tables)

def understand (tables : Tables) (tokens : List Token) : Except Failure Statement :=
  match readStatement tables.checkName tokens with
  | .error failure => .error failure
  | .ok (statement, rest) =>
    if rest.all (·.isSymbol ';') then .ok statement else .error (.ofTokens rest)

def oversized : List Token → List (List Char)
  | [] => []
  | [token] => if isOversized false token.source then [token.source] else []
  | first :: second :: rest =>
    if isOversized false first.source then first.source :: oversized (second :: rest)
    else if first.isSymbol '-' && isOversized true second.source then
      ('-' :: second.source) :: oversized rest
    else oversized (second :: rest)

def checkNumbers (tokens : List Token) : Except Failure Unit :=
  match (oversized tokens).getLast? with
  | none => .ok ()
  | some written => .error (.oversized written)

/-- Execute one statement. Its numbers are looked at when all its names are
known. -/
def executeOne (tables : Tables) (tokens : List Token) : Except Failure (List Step × Tables) := do
  let done ← tables.run (← tables.understand tokens)
  checkNumbers tokens
  return done

def executeAll (tables : Tables) : List (List Token) → Reply × Tables
  | [] => (⟨[], none⟩, tables)
  | statement :: rest =>
    match tables.executeOne statement with
    | .error failure => (⟨[], some failure.message⟩, tables)
    | .ok (steps, tables) =>
      let (reply, final) := executeAll tables rest
      (⟨steps ++ .completed (.ofNat tables.changes) :: reply.steps, reply.failure⟩, final)

end Tables

end Batchwise.Memory
