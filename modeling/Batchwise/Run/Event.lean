import Batchwise.Error
import Batchwise.ResultSet

namespace Batchwise

/-! What a run tells while it goes on. -/

/-- One execution of a batch: the number of the batch in its script, the number
of the repetition, and how many there are to be. All count from one. -/
structure Execution where
  batch : Nat
  index : Nat
  count : Nat
  deriving DecidableEq, Repr

inductive MessageKind where
  | info
  | warning
  | error
  deriving DecidableEq, Repr

inductive Event where
  | started (execution : Execution) (sql : List Char)
  | result (execution : Execution) (number : Nat) (result : ResultSet)
  | message (kind : MessageKind) (text : String)
  /-- The error is that of a failed execution. -/
  | ended (execution : Execution) (error : Option String)
  deriving DecidableEq, Repr

inductive Code where
  | success
  | batchFailed
  | userCancelled
  | connectionFailed
  | parseError
  deriving DecidableEq, Repr

namespace Code

def exitCode : Code → Nat
  | success => 0
  | batchFailed => 1
  | userCancelled => 3
  | connectionFailed => 4
  | parseError => 5

def name : Code → String
  | success => "Success"
  | batchFailed => "BatchFailed"
  | userCancelled => "UserCancelled"
  | connectionFailed => "ConnectionFailed"
  | parseError => "ParseError"

end Code

end Batchwise
