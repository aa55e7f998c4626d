import Batchwise.Toml.Date
import Batchwise.Toml.Node
import Batchwise.Toml.Quoted

namespace Batchwise.Toml

/-! Reading a TOML document into a table. Every reader gives the value that it
has read with the text behind it, or nothing when the text has not the right
form. -/

def skipSpaces (text : List Char) : List Char :=
  text.dropWhile isSpace

def skipComment : List Char → List Char
  | '#' :: rest => rest.dropWhile isPrintable
  | text => text

def endLine (text : List Char) : Option (List Char) :=
  match skipComment (skipSpaces text) with
  | [] => some []
  | rest => newline? rest

def isBareKey (character : Char) : Bool :=
  character.isAlphanum || character = '-' || character = '_'

def readSimpleKey (text : List Char) : Option (Key × List Char) :=
  match text with
  | '"' :: _ | '\'' :: _ => readLine text
  | _ =>
    let key := text.takeWhile isBareKey
    if key = [] then none else some (key, text.drop key.length)

/-- A key with its dots, as the path in front of the last part and that part.
The measure `limit` bounds the number of parts. -/
def readKey : Nat → List Char → Option ((List Key × Key) × List Char)
  | 0, _ => none
  | limit + 1, text => do
    let (key, rest) ← readSimpleKey (skipSpaces text)
    match skipSpaces rest with
    | '.' :: rest =>
      let ((path, last), rest) ← readKey limit rest
      pure ((key :: path, last), rest)
    | rest => pure (([], key), rest)

def depthLimit : Nat := 80

def skipLines : Nat → List Char → List Char
  | 0, text => text
  | limit + 1, text =>
    let rest := skipComment (skipSpaces text)
    match newline? rest with
    | some rest => skipLines limit rest
    | none => rest

/-- The entries of a table in braces, up to the closing brace. Each entry takes
characters, so `limit` need not exceed their number. -/
def readEntries (readValue : List Char → Option (Node × List Char)) :
    Nat → Table → List Char → Option (Table × List Char)
  | 0, _, _ => none
  | limit + 1, table, text => do
    let ((path, key), rest) ← readKey depthLimit text
    match rest with
    | '=' :: rest =>
      let (node, rest) ← readValue (skipSpaces rest)
      let table ← table.addEntry path key node
      match skipSpaces rest with
      | ',' :: rest => readEntries readValue limit table rest
      | '}' :: rest => pure (table, rest)
      | _ => none
    | _ => none

def readValue : Nat → List Char → Option (Node × List Char)
  | 0, _ => none
  | depth + 1, text =>
    match text with
    | '"' :: _ | '\'' :: _ => do
      let (string, rest) ← readString text
      pure (.string string, rest)
    | 't' :: 'r' :: 'u' :: 'e' :: rest => some (.boolean true, rest)
    | 'f' :: 'a' :: 'l' :: 's' :: 'e' :: rest => some (.boolean false, rest)
    | '[' :: rest =>
      match skipLines rest.length rest with
      | ']' :: rest => some (.emptyArray, rest)
      | _ => none
    | '{' :: rest =>
      match skipSpaces rest with
      | '}' :: rest => some (.braces [], rest)
      | _ => do
        let (table, rest) ← readEntries (readValue depth) rest.length (.empty .header) rest
        pure (.braces table.entries, rest)
    | _ => do
      let (date, rest) ← readDate text
      pure (.date date, rest)

inductive Statement where
  | header (path : List Key) (key : Key)
  | entry (path : List Key) (key : Key) (node : Node)
  | nothing

def readStatement (text : List Char) : Option (Statement × List Char) :=
  match text with
  | [] | '#' :: _ | '\n' :: _ | '\r' :: _ => do
    let rest ← endLine text
    pure (.nothing, rest)
  | '[' :: rest => do
    let ((path, key), rest) ← readKey depthLimit rest
    match rest with
    | ']' :: rest =>
      let rest ← endLine rest
      pure (.header path key, rest)
    | _ => none
  | _ => do
    let ((path, key), rest) ← readKey depthLimit text
    match rest with
    | '=' :: rest =>
      let (node, rest) ← readValue depthLimit (skipSpaces rest)
      let rest ← endLine rest
      pure (.entry path key node, rest)
    | _ => none

/-- Apply the statements to a table, below the header read last. Each statement
takes characters, so `limit` need not exceed their number. -/
def readStatements : Nat → List Key → Table → List Char → Option Table
  | 0, _, table, text => if text = [] then some table else none
  | limit + 1, header, table, text =>
    match skipSpaces text with
    | [] => some table
    | text =>
      match readStatement text with
      | none => none
      | some (.nothing, rest) => readStatements limit header table rest
      | some (.header path key, rest) => do
        let table ← table.openHeader path key
        readStatements limit (path ++ [key]) table rest
      | some (.entry path key node, rest) => do
        let table ← table.addBelow header path key node
        readStatements limit header table rest

def dropMark : List Char → List Char
  | '\uFEFF' :: rest => rest
  | text => text

def readDocument (text : List Char) : Option Table :=
  let text := dropMark text
  readStatements text.length [] (.empty .header) text

end Batchwise.Toml
