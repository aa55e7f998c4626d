import Batchwise.Text.Digits

namespace Batchwise.Toml

/-! The four ways to write a string in a TOML document. Basic strings are
written between quotation marks and have escapes; literal strings are written
between apostrophes and have none. Three delimiters in place of one open a
string of several lines, whose line breaks all count as a line feed.

A reader gets the text behind the opening delimiter and gives the string with
the text behind the closing delimiter. -/

def isPrintable (character : Char) : Bool :=
  character = '\t' || (' ' ≤ character && character ≠ '\x7f')

def isSpace (character : Char) : Bool :=
  character = ' ' || character = '\t'

def scalar? (code : Nat) : Option Char :=
  if code.isValidChar then some (Char.ofNat code) else none

def shortEscape? : Char → Option Char
  | 'b' => some '\x08'
  | 't' => some '\t'
  | 'n' => some '\n'
  | 'f' => some '\x0c'
  | 'r' => some '\r'
  | '"' => some '"'
  | '\\' => some '\\'
  | _ => none

def push (character : Char) (found : Option (List Char × List Char)) :
    Option (List Char × List Char) :=
  found.map fun split => (character :: split.1, split.2)

def newline? : List Char → Option (List Char)
  | '\n' :: rest => some rest
  | '\r' :: '\n' :: rest => some rest
  | _ => none

/-- Where the reader of a basic string stands: on plain text, behind a
backslash, among the digits of a code point, or in the gap that a backslash at
the end of a line leaves out, where `broken` tells that the line break has been
passed. -/
inductive BasicState where
  | plain
  | escape
  | code (remaining value : Nat)
  | gap (broken : Bool)

/-- Up to two delimiters in front of the closing ones belong to the string. -/
def closeSeveral (delimiter : Char) (rest : List Char) : List Char × List Char :=
  let extra := (rest.takeWhile (· = delimiter)).take 2
  (extra, rest.drop extra.length)

def isLineBreak : List Char → Bool
  | '\n' :: _ => true
  | '\r' :: '\n' :: _ => true
  | _ => false

def BasicState.enter (state : BasicState) (character : Char) (rest : List Char) : BasicState :=
  match state with
  | gap true =>
    if isSpace character || isLineBreak (character :: rest) then gap true else plain
  | state => state

def readBasic (several : Bool) : BasicState → List Char → Option (List Char × List Char)
  | _, [] => none
  | state, character :: rest =>
    match state.enter character rest with
    | .plain =>
      if character = '"' then
        if !several then some ([], rest)
        else if ['"', '"'].isPrefixOf rest then some (closeSeveral '"' (rest.drop 2))
        else push '"' (readBasic several .plain rest)
      else if character = '\\' then readBasic several .escape rest
      else if several && character = '\n' then push '\n' (readBasic several .plain rest)
      else if several && isLineBreak (character :: rest) then readBasic several .plain rest
      else if isPrintable character then push character (readBasic several .plain rest)
      else none
    | .escape =>
      if character = 'u' then readBasic several (.code 4 0) rest
      else if character = 'U' then readBasic several (.code 8 0) rest
      else if several && isSpace character then readBasic several (.gap false) rest
      else if several && isLineBreak (character :: rest) then readBasic several (.gap true) rest
      else
        match shortEscape? character with
        | some meant => push meant (readBasic several .plain rest)
        | none => none
    | .code remaining value =>
      match hexValue? character with
      | none => none
      | some digit =>
        let value := 16 * value + digit
        if 1 < remaining then readBasic several (.code (remaining - 1) value) rest
        else
          match scalar? value with
          | some meant => push meant (readBasic several .plain rest)
          | none => none
    | .gap broken =>
      if isSpace character then readBasic several (.gap broken) rest
      else if isLineBreak (character :: rest) then readBasic several (.gap true) rest
      else none

def readLiteral (several : Bool) : List Char → Option (List Char × List Char)
  | [] => none
  | character :: rest =>
    if character = '\'' then
      if !several then some ([], rest)
      else if ['\'', '\''].isPrefixOf rest then some (closeSeveral '\'' (rest.drop 2))
      else push '\'' (readLiteral several rest)
    else if several && character = '\n' then push '\n' (readLiteral several rest)
    else if several && isLineBreak (character :: rest) then readLiteral several rest
    else if isPrintable character then push character (readLiteral several rest)
    else none

def readLine : List Char → Option (List Char × List Char)
  | '"' :: rest => readBasic false .plain rest
  | '\'' :: rest => readLiteral false rest
  | _ => none

/-- A string of any form. A line break right behind an opening delimiter of
three characters is left out. -/
def readString : List Char → Option (List Char × List Char)
  | '"' :: '"' :: '"' :: rest => readBasic true .plain ((newline? rest).getD rest)
  | '\'' :: '\'' :: '\'' :: rest => readLiteral true ((newline? rest).getD rest)
  | text => readLine text

example : readString ['"', '\\', 'u', '0', '0', 'e', '9', '"', ' '] = some (['é'], [' ']) := by
  decide

end Batchwise.Toml
