import Batchwise.Memory.Statement

namespace Batchwise.Memory

/-! A column keeps a value in its own type where it can. -/

def ColumnType.name : ColumnType → String
  | integer => "BIGINT"
  | text => "TEXT"
  | real => "DOUBLE"
  | any => "NULL"

def readNumeric (text : List Char) : Option Cell :=
  let trimmed := ((text.dropWhile isSpace).reverse.dropWhile isSpace).reverse
  let (negative, magnitude) :=
    match trimmed with
    | '-' :: rest => (true, rest)
    | '+' :: rest => (false, rest)
    | rest => (false, rest)
  if startsNumber magnitude && (readNumber magnitude).length = magnitude.length then
    some (readDecimal negative magnitude)
  else none

/-- A real number that is whole and lies inside the range of integers becomes an
integer. -/
def toInteger (value : Decimal) : Cell :=
  match value.toBinary.whole? with
  | some magnitude =>
    if isFinite value && magnitude < 9223372036854775808 then
      .integer (if value.negative then -(magnitude : Int) else magnitude)
    else .real value
  | none => .real value

def toReal (value : Int) : Cell :=
  .real (.ofBinary (value < 0) (.nearest .double ⟨value.natAbs, 1⟩))

def ColumnType.store (type : ColumnType) (cell : Cell) : Cell :=
  let numeric : Cell :=
    match cell with
    | .text written => (readNumeric written).getD cell
    | other => other
  match type with
  | .integer =>
    match numeric with
    | .real value => toInteger value
    | other => other
  | .real =>
    match numeric with
    | .integer value => toReal value
    | other => other
  | .text =>
    match cell with
    | .integer value => .text (toString value).toList
    | .real value => .text (writeReal value)
    | other => other
  | .any => cell

/-- A value that is not of the type of its column is read as null, and so is a
number that is not finite. An integer is read by its last 32 bits. -/
def ColumnType.load : ColumnType → Cell → Cell
  | .integer, .integer value => .integer (value.bmod 4294967296)
  | .text, .text value | .any, .text value => .text value
  | .real, .real value => if isFinite value then .real value else .null
  | _, _ => .null

end Batchwise.Memory
