import Batchwise.Batch
import Batchwise.Context
import Batchwise.Element.Scan
import Batchwise.Line

namespace Batchwise

/-! One pass over a script, from which batches are asked one by one. Content is
collected until a separator or the end of the script closes the batch; an empty
batch is dropped. Directives take effect at their place.

A fault takes the element that has it out of the script and changes nothing
else, so a caller may go on asking. -/

structure Progress where
  context : Context
  /-- The pieces of the batch that is still open, the latest first. -/
  pending : List Piece
  start : Option Position
  deriving DecidableEq, Repr

namespace Progress

def ofContext (context : Context) : Progress := ⟨context, [], none⟩

/-- Take an element into the open batch. Comments are never expanded. -/
def append (progress : Progress) (element : Element) : Progress where
  context := progress.context
  pending :=
    ⟨element, if element.kind.isComment then element.text
      else progress.context.expand element.text⟩ :: progress.pending
  start := some (progress.start.getD element.position)

def close (progress : Progress) (count : Int) : Batch :=
  ⟨progress.pending.reverse, progress.start.getD .start, count⟩

def clear (progress : Progress) : Progress := ⟨progress.context, [], none⟩

def assign (progress : Progress) (name value : List Char) : Progress :=
  { progress with context := progress.context.assign name value }

def setPolicy (progress : Progress) (continueOnError : Bool) : Progress :=
  { progress with context := { progress.context with continueOnError } }

def repeatCount (progress : Progress) : Option (List Char) → Option Int
  | none => some 1
  | some written => readCount (progress.context.expand written)

end Progress

def Unterminated.fault (region : Unterminated) : Fault :=
  ⟨if region.kind.isComment then .unterminatedComment else .unterminatedLiteral,
    region.position⟩

structure Pass where
  elements : List Element
  /-- A region behind them that never closes. -/
  unterminated : Option Unterminated
  progress : Progress

inductive Answer where
  | batch (batch : Batch)
  | fault (fault : Fault)
  | cancelled
  | finished
  deriving DecidableEq, Repr

namespace Pass

def ofScript (script : List Char) (context : Context) : Pass :=
  let read := (Cursor.ofScript script).elements
  ⟨read.elements, read.unterminated, .ofContext context⟩

/-- Behind the last element: report the region that never closes, once, then
close the open batch. -/
def finish (unterminated : Option Unterminated) (progress : Progress) : Answer × Pass :=
  match unterminated with
  | some region => (.fault region.fault, ⟨[], none, progress⟩)
  | none =>
    if progress.pending.isEmpty then (.finished, ⟨[], none, progress⟩)
    else (.batch (progress.close 1), ⟨[], none, progress.clear⟩)

def advance (unterminated : Option Unterminated) (progress : Progress) :
    List Element → Answer × Pass
  | [] => finish unterminated progress
  | element :: rest =>
    match Line.read progress.context.mode.isScripting element with
    | .error malformation =>
      (.fault ⟨malformation, element.position⟩, ⟨rest, unterminated, progress⟩)
    | .ok (.separator written) =>
      match progress.repeatCount written with
      | none => (.fault ⟨.separator, element.position⟩, ⟨rest, unterminated, progress⟩)
      | some count =>
        if progress.pending.isEmpty then advance unterminated progress rest
        else (.batch (progress.close count), ⟨rest, unterminated, progress.clear⟩)
    | .ok (.assign name value) => advance unterminated (progress.assign name value) rest
    | .ok (.assignLiteral name) =>
      match rest with
      | [] => finish unterminated progress
      | literal :: rest =>
        if literal.kind = .literal .double then
          advance unterminated (progress.assign name (literal.content.getD [])) rest
        else
          let command := (words element.text).headD []
          (.fault ⟨.directive command, element.position⟩, ⟨rest, unterminated, progress⟩)
    | .ok (.onError continueOnError) =>
      advance unterminated (progress.setPolicy continueOnError) rest
    | .ok .content => advance unterminated (progress.append element) rest

/-- Ask for the next batch. A cancelled pass gives up its open batch. -/
def nextBatch (pass : Pass) (cancelled : Bool) : Answer × Pass :=
  if cancelled then (.cancelled, { pass with progress := pass.progress.clear })
  else advance pass.unterminated pass.progress pass.elements

end Pass

end Batchwise
