import Batchwise.Pass

namespace Batchwise

/-! A reader serves the batches of a pass to a caller who may cancel it. It can
be asked in two ways: `nextBatch` always asks the pass, and `next` stops for
good once it has answered anything but a batch. -/

structure Reader where
  pass : Pass
  cancelled : Bool
  /-- Once it is set, `next` gives no more batches. -/
  stopped : Bool

def Answer.isBatch : Answer → Bool
  | batch _ => true
  | _ => false

namespace Reader

def ofScript (script : List Char) (context : Context) : Reader :=
  ⟨.ofScript script context, false, false⟩

def context (reader : Reader) : Context :=
  reader.pass.progress.context

def cancel (reader : Reader) : Reader :=
  { reader with cancelled := true }

def nextBatch (reader : Reader) : Answer × Reader :=
  let (answer, pass) := reader.pass.nextBatch reader.cancelled
  (answer, { reader with pass })

def next (reader : Reader) : Answer × Reader :=
  if reader.stopped then (.finished, reader)
  else
    let (answer, reader) := reader.nextBatch
    (answer, { reader with stopped := !answer.isBatch })

end Reader

end Batchwise
