namespace Batchwise

/-! JSON as it is written for people: two spaces for each level, and one entry
a line. -/

inductive Json where
  | null
  | boolean (value : Bool)
  /-- A number as it is to be written. -/
  | number (written : String)
  | string (text : List Char)
  | array (items : List Json)
  | object (entries : List (List Char × Json))

namespace Json

def hexDigit (value : Nat) : Char :=
  if value < 10 then Char.ofNat ('0'.toNat + value) else Char.ofNat ('a'.toNat + value - 10)

def escape (character : Char) : List Char :=
  if character = '"' then ['\\', '"']
  else if character = '\\' then ['\\', '\\']
  else if character = '\n' then ['\\', 'n']
  else if character = '\r' then ['\\', 'r']
  else if character = '\t' then ['\\', 't']
  else if character = '\x08' then ['\\', 'b']
  else if character = '\x0c' then ['\\', 'f']
  else if character.toNat < 32 then
    ['\\', 'u', '0', '0', hexDigit (character.toNat / 16), hexDigit (character.toNat % 16)]
  else [character]

def quote (text : List Char) : List Char :=
  '"' :: text.flatMap escape ++ ['"']

def indent (level : Nat) : List Char :=
  List.replicate (2 * level) ' '

def bracket (opening closing : Char) (level : Nat) (items : List (List Char)) : List Char :=
  if items.isEmpty then [opening, closing]
  else
    let lines := items.map fun item => '\n' :: indent (level + 1) ++ item
    opening :: (lines.intersperse [',']).flatten ++ '\n' :: indent level ++ [closing]

mutual
def pretty (level : Nat) : Json → List Char
  | null => "null".toList
  | boolean true => "true".toList
  | boolean false => "false".toList
  | number written => written.toList
  | string text => quote text
  | array items => bracket '[' ']' level (prettyItems (level + 1) items)
  | object entries => bracket '\x7b' '\x7d' level (prettyEntries (level + 1) entries)

def prettyItems (level : Nat) : List Json → List (List Char)
  | [] => []
  | item :: rest => pretty level item :: prettyItems level rest

def prettyEntries (level : Nat) : List (List Char × Json) → List (List Char)
  | [] => []
  | (name, value) :: rest =>
    (quote name ++ ':' :: ' ' :: pretty level value) :: prettyEntries level rest
end

end Json

end Batchwise
