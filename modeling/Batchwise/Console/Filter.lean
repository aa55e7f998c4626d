import Batchwise.Text.Blank
import Batchwise.Text.Digits
import Batchwise.Text.LetterTable
import Batchwise.Text.Split

namespace Batchwise

/-! What a program logs is chosen by directives with commas between them. A
directive is a level, or it names a target, a span with fields in braces, or
both, with an equals sign and a level behind them if need be. -/

inductive FilterFault where
  | directive
  | level
  deriving DecidableEq, Repr

/-- The words for a fault. A fault of a level is told with its cause, which has
the same words again. -/
def FilterFault.message : FilterFault → String
  | directive => "invalid filter directive"
  | level =>
    let words := "error parsing level filter: expected one of \"off\", \"error\", \"warn\", "
      ++ "\"info\", \"debug\", \"trace\", or a number 0-5"
    words ++ ": " ++ words

namespace Filter

def levels : List String := ["off", "error", "warn", "info", "debug", "trace"]

def isLevel (text : List Char) : Bool :=
  let digits := if text.head? = some '+' then text.drop 1 else text
  let number := numberOf digits
  levels.contains (String.ofList (text.map Char.toLower))
    || (!digits.isEmpty && digits.all Char.isDigit && number ≤ 5)

inductive Reader where
  | start
  | target
  | span
  | field (isEmpty : Bool)
  | behindFields
  | behindSpan
  | level (first : Nat)
  deriving DecidableEq, Repr

def startsTarget (character : Char) : Bool :=
  character = '-' || character = ':' || character = '_' || isLetterOrNumber character

def Reader.take (reader : Reader) (place : Nat) (character : Char) : Option Reader :=
  match reader with
  | start =>
    if character = '[' then some span
    else if startsTarget character then some target
    else none
  | target =>
    if character = '=' then some (level (place + 1))
    else if character = '[' then some span
    else some target
  | span =>
    if character = ']' then some behindSpan
    else if character = '\x7b' then some (field true)
    else some span
  | field isEmpty =>
    if character ≠ '\x7d' then some (field false)
    else if isEmpty then none
    else some behindFields
  | behindFields => if character = ']' then some behindSpan else none
  | behindSpan => if character = '=' then some (level (place + 1)) else none
  | level _ => some reader

def readFrom (reader : Reader) (place : Nat) : List Char → Option Reader
  | [] => some reader
  | character :: rest => (reader.take place character).bind fun reader =>
    readFrom reader (place + 1) rest

/-- Check one directive. Blanks around it are passed over, but places in it are
counted without the blanks in front and are looked up with them. -/
def checkDirective (text : List Char) : Except FilterFault Unit :=
  match readFrom .start 0 (trim text) with
  | some .target | some .behindSpan => .ok ()
  | some (.level first) =>
    let level := text.drop first
    if level.isEmpty || isLevel level then .ok () else .error .level
  | _ => .error .directive

def check (text : List Char) : Except FilterFault Unit :=
  ((pieces ',' text).filter (!List.isEmpty ·)).forM checkDirective

example : (check "warn,db[query]=Info".toList).toOption = some () := by decide +kernel

end Filter

end Batchwise
