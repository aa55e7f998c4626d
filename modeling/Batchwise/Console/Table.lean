import Batchwise.Console.Printed
import Batchwise.Console.Style
import Batchwise.Json
import Batchwise.ResultSet

namespace Batchwise

/-! Result sets on a console, as tables or as JSON. -/

inductive Format where
  | table
  | json
  deriving DecidableEq, Repr

def Format.ofName? (name : List Char) : Option Format :=
  match String.ofList name with
  | "table" => some table
  | "json" => some json
  | _ => none

def Cell.written : Cell → List Char
  | null => "NULL".toList
  | boolean value => (toString value).toList
  | integer value => (toString value).toList
  | real value => value.render.toList
  | text value => value

def Cell.toJson : Cell → Json
  | null => .null
  | boolean value => .boolean value
  | integer value => .number (toString value)
  | real value => .number value.render
  | text value => .string value

namespace ResultSet

/-! The columns of a table are as wide as their widest text, where the width of
a text is its length in bytes. Texts are filled up to that width with spaces,
one for each character that is missing. There is a greatest width that texts can
be filled up to; a table with a wider column is not printed at all. -/

def byteWidth : List Char → Nat
  | [] => 0
  | character :: rest => character.utf8Size + byteWidth rest

def widen (widths : List Nat) (row : List (List Char)) : List Nat :=
  match widths, row with
  | width :: widths, text :: row => max width (byteWidth text) :: widen widths row
  | widths, _ => widths

def cellTexts (result : ResultSet) : List (List (List Char)) :=
  result.rows.map fun row => row.map Cell.written

def headings (result : ResultSet) : List (List Char) :=
  result.columns.map (·.name)

def widths (result : ResultSet) : List Nat :=
  result.cellTexts.foldl widen (result.headings.map byteWidth)

def greatestWidth : Nat := 65535

def pad (width : Nat) (text : List Char) : Option (List Char) :=
  if width ≤ greatestWidth then some (text ++ List.replicate (width - text.length) ' ')
  else none

def joinColumns (separator : List Char) (texts : List (List Char)) : List Char :=
  (texts.intersperse separator).flatten

def tableRow (widths : List Nat) (texts : List (List Char)) : Option (List Char) :=
  ((texts.zip widths).mapM fun entry => pad entry.2 entry.1).map (joinColumns [' ', '│', ' '])

def rule (widths : List Nat) : List Char :=
  joinColumns ['─', '┼', '─'] (widths.map fun width => List.replicate width '─')

def printTable (colours : Bool) (result : ResultSet) : Option (List Printed) := do
  let widths := result.widths
  let header ← tableRow widths result.headings
  let rows ← result.cellTexts.mapM (tableRow widths)
  return [.line (Style.boldWhite.paint colours header),
      .line (Style.faint.paint colours (rule widths))]
    ++ rows.map Printed.line
    ++ [.blank,
      .line (Style.cyan.paint colours (toString result.rows.length).toList
        ++ " row(s) returned".toList)]

/-! As JSON a row is an object with its names in order; of columns with one name
the last counts. -/

def putEntry (name : List Char) (value : Json) :
    List (List Char × Json) → List (List Char × Json)
  | [] => [(name, value)]
  | (other, kept) :: rest =>
    if name = other then (name, value) :: rest
    else if name < other then (name, value) :: (other, kept) :: rest
    else (other, kept) :: putEntry name value rest

def rowObject (headings : List (List Char)) (row : List Cell) : Json :=
  .object ((headings.zip row).foldl (fun entries entry =>
    putEntry entry.1 entry.2.toJson entries) [])

def printJson (result : ResultSet) : List Printed :=
  [.line (Json.pretty 0 (.array (result.rows.map (rowObject result.headings))))]

def print (format : Format) (colours : Bool) (result : ResultSet) : Option (List Printed) :=
  match format with
  | .table => result.printTable colours
  | .json => some result.printJson

end ResultSet

end Batchwise
