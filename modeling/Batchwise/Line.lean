import Batchwise.Element
import Batchwise.Error
import Batchwise.Text.Blank
import Batchwise.Text.Case
import Batchwise.Text.Digits

namespace Batchwise

/-! What a run of plain text asks for. Its first word decides: `GO` separates
batches, and in scripting modes a word that starts with a colon is a directive.
Both have to end their line. Everything else is content, and so are comments
and literals.

Nothing here depends on the values of variables. -/

inductive Line where
  /-- The word behind the separator is the count, still to be expanded. -/
  | separator (count : Option (List Char))
  | assign (name value : List Char)
  /-- The value is the literal that follows the run. -/
  | assignLiteral (name : List Char)
  | onError (continueOnError : Bool)
  | content
  deriving DecidableEq, Repr

namespace Line

def readDirective (command : List Char) (operands : List (List Char)) (ending : Ending) :
    Except Malformation Line :=
  if sameKeyword command ":SETVAR".toList then
    match operands, ending with
    | [name], .before (.literal .double) => .ok (.assignLiteral name)
    | [name, value], ending =>
      if ending.isLineEnd then .ok (.assign name value) else .error (.directive command)
    | _, _ => .error (.directive command)
  else if !ending.isLineEnd then .error (.directive command)
  else if sameKeyword command ":ON".toList then
    match operands with
    | [event, policy] =>
      if !sameKeyword event "ERROR".toList then .error (.directive command)
      else if sameKeyword policy "IGNORE".toList then .ok (.onError true)
      else if sameKeyword policy "EXIT".toList then .ok (.onError false)
      else .error (.directive command)
    | _ => .error (.directive command)
  else .error .unknownDirective

def readWords (scripting : Bool) (ending : Ending) :
    List (List Char) → Except Malformation Line
  | [] => .ok .content
  | first :: operands =>
    if sameKeyword first "GO".toList then
      if ending.isLineEnd then .ok (.separator operands.head?) else .error .separator
    else if scripting && first.head? == some ':' then readDirective first operands ending
    else .ok .content

def read (scripting : Bool) (element : Element) : Except Malformation Line :=
  match element.kind with
  | .text => readWords scripting element.ending (words element.text)
  | _ => .ok .content

end Line

/-! A repeat count is a whole number of 32 bits. -/

def readWhole (text : List Char) : Option Int :=
  let (negative, digits) :=
    match text with
    | '-' :: digits => (true, digits)
    | '+' :: digits => (false, digits)
    | digits => (false, digits)
  if digits.isEmpty || !digits.all Char.isDigit then none
  else
    let magnitude : Int := numberOf digits
    some (if negative then -magnitude else magnitude)

def readCount (text : List Char) : Option Int :=
  (readWhole (trim text)).filter fun count => -2147483648 ≤ count && count ≤ 2147483647

example : readCount [' ', '-', '0', '7', '\n'] = some (-7) := by decide

end Batchwise
