import Batchwise.Position

namespace Batchwise

/-! The lexical units of a script. Every character of a script belongs to
exactly one element, and the elements stand in script order. -/

inductive Quote where
  | single
  | double
  | bracket
  deriving DecidableEq, Repr

namespace Quote

def opener : Quote → Char
  | single => '\''
  | double => '"'
  | bracket => '['

def closing (opener : Char) : Char :=
  if opener = '[' then ']' else opener

def closer (quote : Quote) : Char :=
  closing quote.opener

end Quote

inductive ElementKind where
  | text
  | lineComment
  | blockComment
  | literal (quote : Quote)
  deriving DecidableEq, Repr

namespace ElementKind

def isLiteral : ElementKind → Bool
  | literal _ => true
  | _ => false

def isComment : ElementKind → Bool
  | lineComment | blockComment => true
  | _ => false

end ElementKind

inductive Ending where
  | endOfLine
  | endOfScript
  /-- An element of another kind, which starts right behind the run. -/
  | before (kind : ElementKind)
  | none
  deriving DecidableEq, Repr

namespace Ending

def isLineEnd : Ending → Bool
  | endOfLine | endOfScript | before .lineComment => true
  | _ => false

end Ending

structure Element where
  kind : ElementKind
  text : List Char
  position : Position
  ending : Ending
  deriving DecidableEq, Repr

/-! A closing delimiter inside a literal is written twice. -/

def undouble (closer : Char) : List Char → List Char
  | [] => []
  | [character] => [character]
  | first :: second :: rest =>
    if first = closer ∧ second = closer then closer :: undouble closer rest
    else first :: undouble closer (second :: rest)

example : undouble ']' ['a', ']', ']', ']'] = ['a', ']', ']'] := rfl

namespace Element

/-- The text that a literal stands for: its delimiters are dropped and its
doubled closing delimiters are read as one. The last character is taken as the
closing delimiter, and a literal has at least two characters. -/
def content (element : Element) : Option (List Char) :=
  if element.kind.isLiteral then
    match element.text with
    | [] => none
    | _ :: body => body.getLast?.map fun closer => undouble closer body.dropLast
  else none

example : (Element.mk (.literal .single) ['\'', 'i', '\'', '\'', 's', '\''] .start .none).content
    = some ['i', '\'', 's'] := rfl

end Element

end Batchwise
