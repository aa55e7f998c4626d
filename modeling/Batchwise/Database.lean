import Batchwise.Decimal
import Batchwise.Files

namespace Batchwise

/-! What a run needs of a database. The text of a batch goes in; rows and
completed statements come out one after the other, until the text has come to
its end or an error has stopped it. -/

inductive Cell where
  | null
  | boolean (value : Bool)
  | integer (value : Int)
  | real (value : Decimal)
  | text (value : List Char)
  deriving DecidableEq, Repr

structure Column where
  name : List Char
  typeName : String
  deriving DecidableEq, Repr

inductive Step where
  | row (columns : List Column) (cells : List Cell)
  /-- A statement is done, and tells how many rows it has changed. -/
  | completed (changes : UInt64)
  deriving DecidableEq, Repr

structure Reply where
  steps : List Step
  failure : Option String
  deriving DecidableEq, Repr

structure Database (σ : Type) where
  execute : σ → List Char → Reply × σ

/-- The databases that can be reached by an address. Both of these may fail, and tell the
error in words. -/
structure Databases (σ : Type) extends Database σ where
  connect : Files → List Char → Except String (Files × σ)
  acquire : σ → Except String σ

end Batchwise
