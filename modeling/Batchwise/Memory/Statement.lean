import Batchwise.Memory.Failure
import Batchwise.Memory.Number

namespace Batchwise.Memory

/-! The statements that the database in memory understands. Keywords and names
are compared without regard to the case of ASCII letters. -/

inductive ColumnType where
  | integer
  | text
  | real
  | any
  deriving DecidableEq, Repr

inductive Operand where
  | literal (cell : Cell)
  /-- A column, or the value that its name stands for where there is no such
  column. -/
  | column (name : List Char) (otherwise : Option Cell)
  deriving DecidableEq, Repr

inductive Item where
  | all
  | operand (operand : Operand) (heading : Option (List Char)) (source : List Char)
  deriving DecidableEq, Repr

structure Definition where
  table : List Char
  columns : List (List Char × ColumnType)
  source : List Char
  deriving DecidableEq, Repr

inductive Statement where
  | create (definition : Definition)
  | insert (table : List Char) (rows : List (List Operand))
  | delete (table : List Char)
  | select (items : List Item) (table : Option (List Char))
  deriving DecidableEq, Repr

def Token.isWord (token : Token) (keyword : String) : Bool :=
  token.kind = .word && token.text.map Char.toLower = keyword.toList

def Token.isSymbol (token : Token) (symbol : Char) : Bool :=
  token.kind = .symbol && token.text = [symbol]

def Token.isAmong (token : Token) (words : List String) : Bool :=
  words.any token.isWord

def reserved : List String :=
  ["add", "all", "alter", "and", "as", "autoincrement", "between", "case", "check", "collate",
    "commit", "constraint", "create", "default", "deferrable", "delete", "distinct", "drop",
    "else", "escape", "except", "exists", "foreign", "from", "group", "having", "in", "index",
    "insert", "intersect", "into", "is", "isnull", "join", "limit", "not", "nothing", "notnull",
    "null", "on", "or", "order", "primary", "references", "returning", "select", "set", "table",
    "then", "to", "transaction", "union", "unique", "update", "using", "values", "when", "where"]

def joining : List String :=
  ["cross", "full", "glob", "indexed", "inner", "left", "like", "match", "natural", "outer",
    "regexp", "right"]

def Token.name? (token : Token) : Option (List Char) :=
  match token.kind with
  | .word => if token.isAmong reserved then none else some token.text
  | .name | .string => some token.text
  | _ => none

def Token.bareName? (token : Token) : Option (List Char) :=
  if token.isAmong joining then none else token.name?

/-! A reader takes tokens off the front of a statement, up to the first one that
does not fit. -/

abbrev Reading := StateT (List Token) (Except Failure)

def take {α : Type} (meaning : Token → Option α) : Reading α := fun tokens =>
  match tokens with
  | [] => .error .incomplete
  | token :: rest =>
    match meaning token with
    | some value => .ok (value, rest)
    | none => .error (.ofTokens tokens)

def takeIf {α : Type} (meaning : Token → Option α) : Reading (Option α) := fun tokens =>
  match take meaning tokens with
  | .ok (value, rest) => .ok (some value, rest)
  | .error _ => .ok (none, tokens)

def keyword? (keyword : String) (token : Token) : Option Unit :=
  if token.isWord keyword then some () else none

def symbol? (symbol : Char) (token : Token) : Option Unit :=
  if token.isSymbol symbol then some () else none

def number? (negative : Bool) (token : Token) : Option Cell :=
  if token.kind = .number then some (readCell negative token.text) else none

/-- The number that a parameter has instead of a name is out of range. -/
def hasBadNumber (token : Token) : Bool :=
  let number := numberOf (token.source.drop 1)
  token.source.head? = some '?' && 1 < token.source.length && (number = 0 || 32766 < number)

def isParameter (token : Token) : Bool :=
  let isNumbered := token.source.head? = some '#' && (token.source[1]?).any Char.isDigit
  token.kind = .parameter && !isNumbered

/-- A string, or null; neither a parameter nor bytes have a value to be read. -/
def string? (token : Token) : Option Cell :=
  if token.kind = .string then some (.text token.text)
  else if token.isWord "null" || token.kind = .bytes || isParameter token then some .null
  else none

/-- A column, which may also be a truth value or a text in quotation marks. -/
def column? (token : Token) : Option Operand :=
  let otherwise : Option Cell :=
    if token.source.head? = some '"' then some (.text token.text)
    else if token.isWord "true" then some (.integer 1)
    else if token.isWord "false" then some (.integer 0)
    else none
  token.name?.map fun name => .column name otherwise

def columnType? (token : Token) : Option ColumnType :=
  if token.isWord "integer" then some .integer
  else if token.isWord "text" then some .text
  else if token.isWord "real" then some .real
  else none

def readLiteral : Reading Cell := do
  if (← get).head?.any hasBadNumber then throw .parameterNumber
  if let some cell ← takeIf string? then return cell
  if (← takeIf (symbol? '-')).isSome then take (number? true)
  else
    let _ ← takeIf (symbol? '+')
    take (number? false)

/-- One or more items with commas between them. Each item takes tokens, so
`limit` need not exceed their number. -/
def readList {α : Type} (readItem : Reading α) (limit : Nat) : Reading (List α) := do
  let item ← readItem
  match limit, ← takeIf (symbol? ',') with
  | limit + 1, some () => return item :: (← readList readItem limit)
  | _, _ => return [item]

def readParenthesized {α : Type} (readItem : Reading α) : Reading (List α) := do
  let items ← readList readItem (← get).length
  take (symbol? ')')
  return items

def readOperand : Reading Operand := fun tokens =>
  match readLiteral tokens, take column? tokens with
  | .ok (cell, rest), _ => .ok (.literal cell, rest)
  | .error _, .ok (operand, rest) => .ok (operand, rest)
  | .error failure, .error _ => .error failure

def readRow : Reading (List Operand) := do
  take (symbol? '(')
  readParenthesized readOperand

def readColumn : Reading (List Char × ColumnType) := do
  let name ← take Token.name?
  return (name, (← takeIf columnType?).getD .any)

def readAlias : Reading (Option (List Char)) := do
  match ← takeIf (keyword? "as") with
  | some () => return some (← take Token.name?)
  | none => takeIf Token.bareName?

def readOperandItem : Reading Item := do
  let before ← get
  let operand ← readOperand
  let behind ← get
  let tokens := before.take (before.length - behind.length)
  let source := tokens.flatMap fun token => token.source ++ token.gap
  return .operand operand (← readAlias) (source.reverse.dropWhile isSpace).reverse

def readItem : Reading Item := do
  match ← takeIf (symbol? '*') with
  | some () => return .all
  | none => readOperandItem

def readSelect : Reading Statement := do
  let items ← readList readItem (← get).length
  match ← takeIf (keyword? "from") with
  | none => return .select items none
  | some () =>
    let table ← take Token.name?
    let _ ← readAlias
    return .select items (some table)

/-- Columns up to a closing parenthesis, given the names of those in front of
them. A name is found to be taken as soon as its column has come to an end. -/
def readColumns (earlier : List (List Char)) (limit : Nat) :
    Reading (List (List Char × ColumnType)) := do
  let column ← readColumn
  let isTaken := earlier.any (sameName column.1)
  match limit, ← takeIf (symbol? ',') with
  | limit + 1, some () =>
    if isTaken then throw (.columnTwice column.1)
    return column :: (← readColumns (column.1 :: earlier) limit)
  | _, _ =>
    take (symbol? ')')
    if isTaken then throw (.columnTwice column.1)
    return [column]

/-- The name of a table is checked as soon as its columns begin, before they
are read. -/
def readCreate (check : Token → Except Failure Unit) : Reading Statement := do
  take (keyword? "table")
  let before ← get
  let table ← take Token.name?
  take (symbol? '(')
  for token in before.head? do check token
  let columns ← readColumns [] before.length
  let behind ← get
  if let option :: rest := behind then
    if option.name?.isSome then
      throw (if rest.all (·.isSymbol ';') then .unknownOption option.source else .ofTokens rest)
  return .create ⟨table, columns, written (before.take (before.length - behind.length))⟩

def readInsert : Reading Statement := do
  take (keyword? "into")
  let table ← take Token.name?
  take (keyword? "values")
  return .insert table (← readList readRow (← get).length)

def readDelete : Reading Statement := do
  take (keyword? "from")
  return .delete (← take Token.name?)

def reader? (check : Token → Except Failure Unit) (token : Token) : Option (Reading Statement) :=
  if token.isWord "select" then some readSelect
  else if token.isWord "create" then some (readCreate check)
  else if token.isWord "insert" then some readInsert
  else if token.isWord "delete" then some readDelete
  else none

def readStatement (check : Token → Except Failure Unit) : Reading Statement := do
  let reader ← take (reader? check)
  reader

def splitStatements : List Token → List (List Token)
  | [] => []
  | token :: rest =>
    if token.isSymbol ';' then [token] :: splitStatements rest
    else
      match splitStatements rest with
      | statement :: following => (token :: statement) :: following
      | [] => [[token]]

def statementsOf (text : List Char) : List (List Token) :=
  (splitStatements (tokens text)).filter fun statement =>
    !statement.all (·.isSymbol ';')

end Batchwise.Memory
