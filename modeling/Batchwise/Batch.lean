import Batchwise.Element

namespace Batchwise

/-! Batches of SQL. A batch keeps the elements it was made of, each with the
text that it contributes. -/

structure Piece where
  element : Element
  text : List Char
  deriving DecidableEq, Repr

structure Batch where
  pieces : List Piece
  start : Position
  /-- How often to execute the batch; it may be zero or negative. -/
  count : Int
  deriving DecidableEq, Repr

namespace Batch

def text (batch : Batch) : List Char :=
  batch.pieces.flatMap (·.text)

def isExecutable (batch : Batch) : Bool :=
  0 < batch.count

end Batch

end Batchwise
