import Batchwise.Database

namespace Batchwise

/-! The rows of a reply, parted into result sets. A set is the rows between two
completed statements and has the columns of its first row; statements without
rows have no set. -/

structure ResultSet where
  columns : List Column
  rows : List (List Cell)
  deriving DecidableEq, Repr

structure Gathering where
  changes : UInt64
  /-- The closed sets, the latest first. -/
  closed : List ResultSet
  columns : List Column
  rows : List (List Cell)

namespace Gathering

def empty : Gathering := ⟨0, [], [], []⟩

def close (gathering : Gathering) : Gathering :=
  if gathering.rows.isEmpty then gathering
  else
    { gathering with
      closed := ⟨gathering.columns, gathering.rows.reverse⟩ :: gathering.closed
      columns := []
      rows := [] }

def take (gathering : Gathering) : Step → Gathering
  | .row columns cells =>
    { gathering with
      columns := if gathering.columns.isEmpty then columns else gathering.columns
      rows := cells :: gathering.rows }
  | .completed changes => { gathering with changes := gathering.changes + changes }.close

def ofSteps (steps : List Step) : Gathering :=
  steps.foldl take empty

end Gathering

namespace Reply

def gathering (reply : Reply) : Gathering :=
  let gathering := Gathering.ofSteps reply.steps
  match reply.failure with
  | none => gathering.close
  | some _ => gathering

/-- The result sets to report. Rows in front of a failure are lost. -/
def resultSets (reply : Reply) : List ResultSet :=
  reply.gathering.closed.reverse

/-- The rows changed by all statements together, as far as they can be counted in a word. -/
def changes (reply : Reply) : UInt64 :=
  reply.gathering.changes

end Reply

end Batchwise
