import Batchwise.Proofs.Run.Trace
import Mathlib.Algebra.GroupWithZero.Nat

namespace Batchwise

/-! How the rows of a reply are parted into result sets. The steps of a reply fall in one way
into stretches of rows, each with the completion behind it, and the rows that are left behind
the last completion. A stretch with rows is one set, with the columns of its first row. The
rows that are left are a set only if the reply has come to its end. -/

structure Row where
  columns : List Column
  cells : List Cell
  deriving DecidableEq, Repr

def Row.step (row : Row) : Step :=
  .row row.columns row.cells

/-- The rows between two completions, and what the second of them tells. -/
structure Stretch where
  rows : List Row
  changes : UInt64
  deriving DecidableEq, Repr

def Stretch.steps (stretch : Stretch) : List Step :=
  stretch.rows.map Row.step ++ [.completed stretch.changes]

def stepsOf (stretches : List Stretch) (left : List Row) : List Step :=
  stretches.flatMap Stretch.steps ++ left.map Row.step

theorem stepsOf_cons (stretch : Stretch) (rest : List Stretch) (left : List Row) :
    stepsOf (stretch :: rest) left =
      stretch.rows.map Row.step ++ .completed stretch.changes :: stepsOf rest left := by
  simp [stepsOf, Stretch.steps]

namespace Step

def cells? : Step → Option (List Cell)
  | row _ cells => some cells
  | completed _ => none

def hasColumns : Step → Bool
  | row columns _ => !columns.isEmpty
  | completed _ => true

end Step

theorem Row.columns_ne_nil {row : Row} (hasColumns : row.step.hasColumns = true) :
    row.columns ≠ [] := by
  intro none
  simp [step, Step.hasColumns, none] at hasColumns

namespace ResultSet

def ofRows? : List Row → Option ResultSet
  | [] => none
  | first :: rest => some ⟨first.columns, (first :: rest).map Row.cells⟩

end ResultSet

/-! ## One way to part the steps -/

def prependRow (row : Row) : List Stretch × List Row → List Stretch × List Row
  | ([], left) => ([], row :: left)
  | (stretch :: rest, left) => (⟨row :: stretch.rows, stretch.changes⟩ :: rest, left)

def stretchesOf : List Step → List Stretch × List Row
  | [] => ([], [])
  | .row columns cells :: rest => prependRow ⟨columns, cells⟩ (stretchesOf rest)
  | .completed changes :: rest => (⟨[], changes⟩ :: (stretchesOf rest).1, (stretchesOf rest).2)

theorem stepsOf_prependRow (row : Row) (parted : List Stretch × List Row) :
    stepsOf (prependRow row parted).1 (prependRow row parted).2 =
      row.step :: stepsOf parted.1 parted.2 := by
  rcases parted with ⟨_ | ⟨stretch, rest⟩, left⟩
  · rfl
  · simp [prependRow, stepsOf, Stretch.steps]

theorem stepsOf_stretchesOf (steps : List Step) :
    stepsOf (stretchesOf steps).1 (stretchesOf steps).2 = steps := by
  induction steps with
  | nil => rfl
  | cons step rest induction =>
      cases step with
      | row columns cells =>
          rw [stretchesOf, stepsOf_prependRow, induction]
          rfl
      | completed changes => exact congrArg (.completed changes :: ·) induction

theorem stretchesOf_stretch (rows : List Row) (changes : UInt64) (rest : List Step) :
    stretchesOf (rows.map Row.step ++ .completed changes :: rest) =
      (⟨rows, changes⟩ :: (stretchesOf rest).1, (stretchesOf rest).2) := by
  induction rows with
  | nil => rfl
  | cons row rows induction =>
      rw [List.map_cons, List.cons_append, Row.step, stretchesOf, induction]
      rfl

theorem stretchesOf_rows (rows : List Row) : stretchesOf (rows.map Row.step) = ([], rows) := by
  induction rows with
  | nil => rfl
  | cons row rows induction =>
      rw [List.map_cons, Row.step, stretchesOf, induction]
      rfl

theorem stretchesOf_stepsOf (stretches : List Stretch) (left : List Row) :
    stretchesOf (stepsOf stretches left) = (stretches, left) := by
  induction stretches with
  | nil => exact stretchesOf_rows left
  | cons stretch rest induction =>
      rw [stepsOf_cons, stretchesOf_stretch, induction]

/-! ## Reading a reply -/

namespace Gathering

theorem foldl_take_rows (gathering : Gathering) (isOpen : gathering.columns ≠ [])
    (rows : List Row) :
    (rows.map Row.step).foldl take gathering =
      { gathering with rows := (rows.map Row.cells).reverse ++ gathering.rows } := by
  induction rows generalizing gathering with
  | nil => rfl
  | cons row rows induction =>
      have taken : gathering.take row.step =
          { gathering with rows := row.cells :: gathering.rows } := by
        simp [take, Row.step, isOpen]
      have behind := induction { gathering with rows := row.cells :: gathering.rows } isOpen
      rw [List.map_cons, List.foldl_cons, taken, behind]
      simp

theorem close_foldl_rows {rows : List Row} (hasColumns : ∀ row ∈ rows, row.columns ≠ [])
    (changes : UInt64) (closed : List ResultSet) :
    ((rows.map Row.step).foldl take ⟨changes, closed, [], []⟩).close =
      ⟨changes, (ResultSet.ofRows? rows).toList ++ closed, [], []⟩ := by
  cases rows with
  | nil => rfl
  | cons first rest =>
      have isOpen := hasColumns first List.mem_cons_self
      rw [List.map_cons, List.foldl_cons]
      have taken : (Gathering.mk changes closed [] []).take first.step =
          ⟨changes, closed, first.columns, [first.cells]⟩ := rfl
      rw [taken, foldl_take_rows _ isOpen, close]
      simp [ResultSet.ofRows?]

theorem closed_foldl_rows (gathering : Gathering) (rows : List Row) :
    ((rows.map Row.step).foldl take gathering).closed = gathering.closed ∧
      ((rows.map Row.step).foldl take gathering).changes = gathering.changes := by
  induction rows generalizing gathering with
  | nil => exact ⟨rfl, rfl⟩
  | cons row rows induction => exact induction (gathering.take row.step)

theorem take_completed (gathering : Gathering) (changes : UInt64) :
    gathering.take (.completed changes) =
      { gathering.close with changes := gathering.changes + changes } := by
  rw [take, close, close]
  split <;> rfl

theorem foldl_take_stretches {stretches : List Stretch}
    (hasColumns : ∀ stretch ∈ stretches, ∀ row ∈ stretch.rows, row.columns ≠ [])
    (changes : UInt64) (closed : List ResultSet) :
    (stretches.flatMap Stretch.steps).foldl take ⟨changes, closed, [], []⟩ =
      ⟨changes + .ofNat (stretches.map (·.changes.toNat)).sum,
        ((stretches.map (·.rows)).filterMap ResultSet.ofRows?).reverse ++ closed, [], []⟩ := by
  induction stretches generalizing changes closed with
  | nil => exact congrArg (Gathering.mk · closed [] []) (UInt64.add_zero changes).symm
  | cons stretch rest induction =>
      rcases List.forall_mem_cons.mp hasColumns with ⟨here, behind⟩
      have taken : stretch.steps.foldl take ⟨changes, closed, [], []⟩ =
          ⟨changes + stretch.changes,
            (ResultSet.ofRows? stretch.rows).toList ++ closed, [], []⟩ := by
        rw [Stretch.steps, List.foldl_append, List.foldl_cons, List.foldl_nil, take_completed,
          close_foldl_rows here, (closed_foldl_rows _ stretch.rows).2]
      rw [List.flatMap_cons, List.foldl_append, taken, induction behind, List.map_cons,
        List.sum_cons, UInt64.ofNat_add, UInt64.ofNat_toNat, UInt64.add_assoc, List.map_cons,
        List.filterMap_cons]
      cases ResultSet.ofRows? stretch.rows <;> simp

end Gathering

theorem rows_of_sets (groups : List (List Row)) :
    (groups.filterMap ResultSet.ofRows?).flatMap (·.rows) = groups.flatten.map Row.cells := by
  induction groups with
  | nil => rfl
  | cons rows rest induction =>
      rw [List.flatten_cons, List.map_append, ← induction]
      cases rows with
      | nil => rfl
      | cons first more => rfl

theorem cells_stepsOf (stretches : List Stretch) (left : List Row) :
    (stepsOf stretches left).filterMap Step.cells? =
      (stretches.map (·.rows) ++ [left]).flatten.map Row.cells := by
  have ofRows : ∀ rows : List Row,
      (rows.map Row.step).filterMap Step.cells? = rows.map Row.cells := by
    intro rows
    rw [List.filterMap_map]
    exact congrFun (List.filterMap_eq_map (f := Row.cells)) rows
  induction stretches with
  | nil =>
      rw [List.map_nil, List.nil_append, List.flatten_singleton]
      exact ofRows left
  | cons stretch rest induction =>
      rw [stepsOf_cons, List.filterMap_append, ofRows, List.filterMap_cons_none rfl, induction,
        List.map_cons, List.cons_append, List.flatten_cons, List.map_append]

/-! ## What is made of a reply -/

namespace Reply

section Stretches

variable {reply : Reply} {stretches : List Stretch} {left : List Row}
  (source : reply.steps = stepsOf stretches left)
  (hasColumns : ∀ step ∈ reply.steps, step.hasColumns = true)

include source hasColumns

theorem columns_of_left : ∀ row ∈ left, row.columns ≠ [] := by
  intro row member
  apply Row.columns_ne_nil
  apply hasColumns
  rw [source]
  exact List.mem_append_right _ (List.mem_map_of_mem member)

theorem columns_of_stretches :
    ∀ stretch ∈ stretches, ∀ row ∈ stretch.rows, row.columns ≠ [] := by
  intro stretch isStretch row member
  apply Row.columns_ne_nil
  apply hasColumns
  rw [source]
  apply List.mem_append_left
  apply List.mem_flatMap_of_mem isStretch
  exact List.mem_append_left _ (List.mem_map_of_mem member)

theorem ofSteps_steps :
    Gathering.ofSteps reply.steps = (left.map Row.step).foldl Gathering.take
      ⟨.ofNat (stretches.map (·.changes.toNat)).sum,
        ((stretches.map (·.rows)).filterMap ResultSet.ofRows?).reverse, [], []⟩ := by
  have read := Gathering.foldl_take_stretches (columns_of_stretches source hasColumns) 0 []
  rw [source, Gathering.ofSteps, stepsOf, List.foldl_append, Gathering.empty, read,
    UInt64.zero_add, List.append_nil]

theorem gathering_of_end (succeeded : reply.failure = none) :
    reply.gathering =
      ⟨.ofNat (stretches.map (·.changes.toNat)).sum, (ResultSet.ofRows? left).toList ++
        ((stretches.map (·.rows)).filterMap ResultSet.ofRows?).reverse, [], []⟩ := by
  rw [gathering, succeeded, ofSteps_steps source hasColumns]
  exact Gathering.close_foldl_rows (columns_of_left source hasColumns) _ _

theorem gathering_of_failure {detail : String} (failure : reply.failure = some detail) :
    reply.gathering.closed =
        ((stretches.map (·.rows)).filterMap ResultSet.ofRows?).reverse ∧
      reply.gathering.changes = .ofNat (stretches.map (·.changes.toNat)).sum := by
  rw [gathering, failure, ofSteps_steps source hasColumns]
  exact Gathering.closed_foldl_rows _ left

theorem changes_of_stretches :
    reply.changes = .ofNat (stretches.map (·.changes.toNat)).sum := by
  cases failure : reply.failure with
  | none => rw [changes, gathering_of_end source hasColumns failure]
  | some detail => exact (gathering_of_failure source hasColumns failure).2

theorem resultSets_of_end (succeeded : reply.failure = none) :
    reply.resultSets = (stretches.map (·.rows) ++ [left]).filterMap ResultSet.ofRows? := by
  rw [resultSets, gathering_of_end source hasColumns succeeded, List.reverse_append,
    List.reverse_reverse, List.filterMap_append, List.filterMap_cons, List.filterMap_nil]
  cases ResultSet.ofRows? left <;> rfl

theorem resultSets_of_failure {detail : String} (failure : reply.failure = some detail) :
    reply.resultSets = (stretches.map (·.rows)).filterMap ResultSet.ofRows? := by
  rw [resultSets, (gathering_of_failure source hasColumns failure).1, List.reverse_reverse]

end Stretches

structure Partitions (reply : Reply) (stretches : List Stretch) (left : List Row) : Prop where
  source : reply.steps = stepsOf stretches left
  unique : ∀ others rest, reply.steps = stepsOf others rest → others = stretches ∧ rest = left
  /-- The count is kept in a word. -/
  changes : reply.changes.toNat = (stretches.map (·.changes.toNat)).sum % 2 ^ 64
  counted : (stretches.map (·.changes.toNat)).sum < 2 ^ 64 →
    reply.changes.toNat = (stretches.map (·.changes.toNat)).sum
  /-- At a normal end, no row is lost. -/
  ended : reply.failure = none →
    reply.resultSets = (stretches.map (·.rows) ++ [left]).filterMap ResultSet.ofRows? ∧
      reply.resultSets.flatMap (·.rows) = reply.steps.filterMap Step.cells?
  /-- Behind a failure, the rows that are left are lost. -/
  failed : ∀ detail, reply.failure = some detail →
    reply.resultSets = (stretches.map (·.rows)).filterMap ResultSet.ofRows? ∧
      reply.resultSets.flatMap (·.rows) = (stretches.flatMap (·.rows)).map Row.cells

theorem exists_partitions (reply : Reply)
    (hasColumns : ∀ step ∈ reply.steps, step.hasColumns = true) :
    ∃ stretches left, reply.Partitions stretches left := by
  have source := (stepsOf_stretchesOf reply.steps).symm
  have changes := congrArg UInt64.toNat (changes_of_stretches source hasColumns)
  rw [UInt64.toNat_ofNat'] at changes
  refine ⟨_, _, source, ?_, changes, ?_, ?_, ?_⟩
  · intro others rest same
    rw [same, stretchesOf_stepsOf]
    exact ⟨rfl, rfl⟩
  · intro fits
    rw [changes, Nat.mod_eq_of_lt fits]
  · intro succeeded
    have sets := resultSets_of_end source hasColumns succeeded
    apply And.intro sets
    rw [sets, rows_of_sets, ← cells_stepsOf, ← source]
  · intro detail failure
    have sets := resultSets_of_failure source hasColumns failure
    apply And.intro sets
    rw [sets, rows_of_sets, List.flatMap_def]

end Reply

/-! ## What is told of an execution -/

theorem Run.execute_failure {σ : Type} (database : Database σ) (cancellation : Cancellation)
    (run : Run σ) (execution : Execution) (sql : List Char) :
    let reply := (database.execute run.database sql).1
    let after := run.execute database cancellation execution sql
    after.2 = reply.failure.isSome ∧
      ∀ detail, reply.failure = some detail → after.1.error = some (.execution detail) := by
  rcases replied : database.execute run.database sql with ⟨reply, state⟩
  dsimp only
  rw [Run.execute, replied]
  dsimp only
  cases failure : reply.failure with
  | none =>
      apply And.intro rfl
      intro detail failed
      cases failed
  | some text =>
      apply And.intro rfl
      intro detail failed
      cases failed
      rfl

/-- The steps that a database takes to execute a batch fall in one way into stretches of rows
and the rows that are left. Each stretch with rows is told as one result set, in order and
counted from one, and so are the rows that are left unless the batch has failed. What the
completions tell is added up, as far as a word can count it, and a failure is the error of
the execution. -/
theorem result_sets_partition_rows {σ : Type} (database : Database σ)
    (cancellation : Cancellation) (run : Run σ) (execution : Execution) (sql : List Char)
    (hasColumns : ∀ step ∈ (database.execute run.database sql).1.steps, step.hasColumns = true) :
    let reply := (database.execute run.database sql).1
    let after := run.execute database cancellation execution sql
    ∃ stretches left events, reply.Partitions stretches left ∧
      Tells execution sql reply events ∧ Run.Accounts events run after.1 ∧
      after.2 = reply.failure.isSome ∧
      ∀ detail, reply.failure = some detail → after.1.error = some (.execution detail) := by
  intro reply after
  rcases reply.exists_partitions hasColumns with ⟨stretches, left, partitions⟩
  rcases Run.execute_tells database cancellation run execution sql with
    ⟨told, events, replied, tells, accounts⟩
  have same : reply = told := congrArg Prod.fst replied
  rw [← same] at tells
  exact ⟨stretches, left, events, partitions, tells, accounts,
    Run.execute_failure database cancellation run execution sql⟩

/-- A completion without rows, two rows, a row with another column, and one that is left
behind by a failure. -/
theorem result_sets_partition_rows_of_lost_row :
    let column : Char → Column := fun name => ⟨[name], "INTEGER"⟩
    let row : Char → Int → Row := fun name value => ⟨[column name], [.integer value]⟩
    let stretches : List Stretch :=
      [⟨[], 2⟩, ⟨[row 'a' 1, row 'a' 2], 1⟩, ⟨[row 'b' 3], 0⟩]
    let reply : Reply := ⟨stepsOf stretches [row 'c' 4], some "disk I/O error"⟩
    let execution : Execution := ⟨1, 1, 1⟩
    let after := (Run.start () false).execute ⟨fun _ _ => (reply, ())⟩ .never execution []
    (∀ step ∈ reply.steps, step.hasColumns = true) ∧
      after.1.events.reverse =
        [.started execution [],
          .result execution 1 ⟨[column 'a'], [[.integer 1], [.integer 2]]⟩,
          .result execution 2 ⟨[column 'b'], [[.integer 3]]⟩,
          .message .error "Execution error: disk I/O error",
          .ended execution (some "Execution error: disk I/O error")] ∧
      reply.changes.toNat = 3 := by
  intro column row stretches reply execution after
  have hasColumns : ∀ step ∈ reply.steps, step.hasColumns = true := by decide
  rcases result_sets_partition_rows ⟨fun _ _ => (reply, ())⟩ .never (.start () false) execution []
    hasColumns with ⟨others, left, events, partitions, tells, accounts, -⟩
  rcases partitions.unique stretches [row 'c' 4] rfl with ⟨rfl, rfl⟩
  have sets := (partitions.failed _ rfl).1
  refine ⟨hasColumns, ?_, partitions.counted (by decide)⟩
  cases tells with
  | unchanged succeeded | changed succeeded => cases succeeded
  | failed failure =>
      cases failure
      rw [accounts.told, sets]
      rfl

end Batchwise
