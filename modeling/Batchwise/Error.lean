import Batchwise.Position

namespace Batchwise

/-! What can go wrong, by cause, and the words that tell it. -/

inductive FileFault where
  | missing
  | isDirectory
  | notDirectory
  | notText
  deriving DecidableEq, Repr

def FileFault.message : FileFault → String
  | missing => "No such file or directory (os error 2)"
  | isDirectory => "Is a directory (os error 21)"
  | notDirectory => "Not a directory (os error 20)"
  | notText => "stream did not contain valid UTF-8"

inductive Malformation where
  | unterminatedComment
  | unterminatedLiteral
  | separator
  | directive (command : List Char)
  | unknownDirective
  deriving DecidableEq, Repr

def Malformation.message : Malformation → String
  | unterminatedComment => "Unexpected end of input inside multi-line comment"
  | unterminatedLiteral => "Unexpected end of input in quoted section"
  | separator => "Incorrect syntax was encountered while parsing GO."
  | directive command =>
    "Incorrect syntax was encountered while parsing " ++ String.ofList command ++ "."
  | unknownDirective => "Incorrect syntax near ':'."

structure Fault where
  malformation : Malformation
  position : Position
  deriving DecidableEq, Repr

/-! Every error that can reach a user. The place of a malformed script may be
known in part only; a missing line or column is told as zero, unless both are
missing. -/

inductive ScriptError where
  | malformed (line column : Option Nat) (message : String)
  | cancelled
  | connection (detail : String)
  | execution (detail : String)
  | configuration (detail : String)
  | file (fault : FileFault)
  deriving DecidableEq, Repr

namespace ScriptError

def message : ScriptError → String
  | malformed none none message => message
  | malformed line column message =>
    "Line " ++ toString (line.getD 0) ++ ", Column " ++ toString (column.getD 0) ++ ": " ++ message
  | cancelled => "Operation cancelled"
  | connection detail => "Connection error: " ++ detail
  | execution detail => "Execution error: " ++ detail
  | configuration detail => "Configuration error: " ++ detail
  | file fault => "IO error: " ++ fault.message

def position? : ScriptError → Option Position
  | malformed (some line) (some column) _ => some ⟨line, column⟩
  | _ => none

end ScriptError

def Fault.toError (fault : Fault) : ScriptError :=
  .malformed (some fault.position.line) (some fault.position.column) fault.malformation.message

@[simp] theorem Fault.position?_toError (fault : Fault) :
    fault.toError.position? = some fault.position := rfl

end Batchwise
