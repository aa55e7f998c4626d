import Batchwise.Proofs.Run.Journal
import Mathlib.Data.List.Forall2

namespace Batchwise

/-! Runs that differ in their numbers alone. A run executes the texts of its batches, and
the replies, the error policies and the cancellation decide how far it comes. Which
number a batch or an execution has, and in which line a fault is, is told and nothing
else. -/

inductive Job where
  | skip (count : Int)
  | execute (sql : List Char) (continueOnError : Bool)
  deriving DecidableEq, Repr

def Task.job : Task → Job
  | skip _ count => .skip count
  | execute _ delivery => .execute delivery.batch.text delivery.continueOnError

def Delivery.jobs (delivery : Delivery) : List Job :=
  if delivery.batch.isExecutable then
    List.replicate delivery.batch.count.toNat
      (.execute delivery.batch.text delivery.continueOnError)
  else [.skip delivery.batch.count]

def Parsed.jobs (parsed : Parsed) : List Job :=
  parsed.deliveries.flatMap Delivery.jobs

theorem jobs_tasks (number : Nat) (deliveries : List Delivery) :
    (tasks number deliveries).map Task.job = deliveries.flatMap Delivery.jobs := by
  induction deliveries generalizing number with
  | nil => rfl
  | cons delivery rest induction =>
      have own : (delivery.tasks number).map Task.job = delivery.jobs := by
        rw [Delivery.tasks, Delivery.jobs]
        split
        · rw [List.map_map]
          refine List.map_const'.trans ?_
          rw [List.length_range']
        · rfl
      rw [tasks, List.map_append, own, induction, List.flatMap_cons]

/-! ## The same but for the numbers -/

def Fault.unlined (fault : Fault) : Malformation × Nat :=
  (fault.malformation, fault.position.column)

inductive ScriptError.Alike : ScriptError → ScriptError → Prop
  | same (error : ScriptError) : ScriptError.Alike error error
  | malformed {first second : Fault} (alike : first.unlined = second.unlined) :
      ScriptError.Alike first.toError second.toError

/-- The same happens, perhaps in another batch, repetition or line. -/
inductive Event.Alike : Event → Event → Prop
  | started (first second : Execution) (sql : List Char) :
      Event.Alike (.started first sql) (.started second sql)
  | result (first second : Execution) (number : Nat) (result : ResultSet) :
      Event.Alike (.result first number result) (.result second number result)
  | message (kind : MessageKind) (text : String) :
      Event.Alike (.message kind text) (.message kind text)
  | skipped (first second : Nat) (count : Int) :
      Event.Alike (.message .warning (skippedMessage first count))
        (.message .warning (skippedMessage second count))
  | malformed {first second : Fault} (alike : first.unlined = second.unlined) :
      Event.Alike (.message .error first.toError.message)
        (.message .error second.toError.message)
  | ended (first second : Execution) (error : Option String) :
      Event.Alike (.ended first error) (.ended second error)

theorem Event.Alike.call {first second : Event} (alike : first.Alike second) :
    first.call = second.call := by
  cases alike <;> rfl

structure Outcome.Alike (first second : Outcome) : Prop where
  code : first.code = second.code
  executed : first.executed = second.executed
  failed : first.failed = second.failed
  error : Option.Rel ScriptError.Alike first.error second.error
  events : List.Forall₂ Event.Alike first.events second.events

/-- The scripts ask for the same jobs in the same order, and end alike. -/
structure Parsed.AsksAlike (first second : Parsed) : Prop where
  jobs : first.jobs = second.jobs
  fault : first.fault.map Fault.unlined = second.fault.map Fault.unlined

namespace Run

variable {σ : Type}

structure Alike (first second : Run σ) : Prop where
  database : first.database = second.database
  cancelled : first.cancelled = second.cancelled
  calls : first.calls = second.calls
  events : List.Forall₂ Event.Alike first.events second.events
  executed : first.executed = second.executed
  failed : first.failed = second.failed
  error : Option.Rel ScriptError.Alike first.error second.error

theorem report_alike (first second : Execution) (sql : List Char) (reply : Reply) :
    List.Forall₂ Event.Alike (report first sql reply) (report second sql reply) := by
  have results : List.Forall₂ Event.Alike
      (reply.resultSets.mapIdx fun index result => Event.result first (index + 1) result)
      (reply.resultSets.mapIdx fun index result => Event.result second (index + 1) result) := by
    rw [List.mapIdx_eq_zipIdx_map, List.mapIdx_eq_zipIdx_map, List.forall₂_map_left_iff,
      List.forall₂_map_right_iff, List.forall₂_same]
    intro numbered _
    exact .result first second _ _
  rw [report, report]
  refine .cons (.started first second sql) (List.rel_append results ?_)
  cases reply.failure with
  | none =>
      refine List.rel_append ?_ (.cons (.ended first second none) .nil)
      split
      · exact .cons (.message _ _) .nil
      · exact .nil
  | some detail => exact .cons (.message _ _) (.cons (.ended first second _) .nil)

section Step

variable {first second : Run σ} (cancellation : Cancellation)

theorem Alike.tell (alike : first.Alike second) {one other : Event} (same : one.Alike other) :
    (first.tell cancellation one).Alike (second.tell cancellation other) where
  database := alike.database
  cancelled := by
    rw [Run.tell, Run.tell, alike.cancelled, alike.calls, same.call]
  calls := by
    rw [Run.tell, Run.tell, alike.calls, same.call]
  events := .cons same alike.events
  executed := alike.executed
  failed := alike.failed
  error := alike.error

theorem Alike.tellAll {events others : List Event}
    (same : List.Forall₂ Event.Alike events others) :
    ∀ first second : Run σ, first.Alike second →
      (first.tellAll cancellation events).Alike (second.tellAll cancellation others) := by
  induction same with
  | nil => exact fun first second alike => alike
  | cons same _ induction =>
      intro first second alike
      exact induction _ _ (alike.tell cancellation same)

theorem Alike.execute (alike : first.Alike second) (database : Database σ)
    (one other : Execution) (sql : List Char) :
    (first.execute database cancellation one sql).1.Alike
        (second.execute database cancellation other sql).1 ∧
      (first.execute database cancellation one sql).2 =
        (second.execute database cancellation other sql).2 := by
  rw [Run.execute, Run.execute, alike.database]
  rcases database.execute second.database sql with ⟨reply, state⟩
  have told := Alike.tellAll cancellation (report_alike one other sql reply)
    { first with database := state } { second with database := state }
    ⟨rfl, alike.cancelled, alike.calls, alike.events, alike.executed, alike.failed,
      alike.error⟩
  dsimp only
  cases reply.failure with
  | none =>
      refine ⟨⟨told.database, told.cancelled, told.calls, told.events, ?_, told.failed,
        told.error⟩, rfl⟩
      exact congrArg (· + 1) told.executed
  | some detail =>
      refine ⟨⟨told.database, told.cancelled, told.calls, told.events, told.executed, ?_,
        .some (.same _)⟩, rfl⟩
      exact congrArg (· + 1) told.failed

theorem Alike.perform (alike : first.Alike second) (database : Database σ) {one other : Task}
    (same : one.job = other.job) :
    (first.perform database cancellation one).1.Alike
        (second.perform database cancellation other).1 ∧
      (first.perform database cancellation one).2 =
        (second.perform database cancellation other).2 := by
  cases one with
  | skip number count =>
      cases other with
      | execute => cases same
      | skip otherNumber otherCount =>
          cases same
          exact ⟨alike.tell cancellation (.skipped number otherNumber count), rfl⟩
  | execute execution delivery =>
      cases other with
      | skip => cases same
      | execute otherExecution otherDelivery =>
          rcases Job.execute.inj same with ⟨sql, policy⟩
          rw [Run.perform, Run.perform, sql, policy]
          have executed := alike.execute cancellation database execution otherExecution
            otherDelivery.batch.text
          exact ⟨executed.1, by dsimp only; rw [executed.2]⟩

end Step

/-- Runs that do the same jobs are alike. The induction is over the tasks of one of them. -/
theorem work_alike (database : Database σ) (cancellation : Cancellation)
    {fault other : Option Fault}
    (faults : fault.map Fault.unlined = other.map Fault.unlined)
    (left : List Task) :
    ∀ (otherLeft : List Task) (first second : Run σ),
      left.map Task.job = otherLeft.map Task.job → first.Alike second →
      (work database cancellation fault left first).1.Alike
          (work database cancellation other otherLeft second).1 ∧
        (work database cancellation fault left first).2 =
          (work database cancellation other otherLeft second).2 := by
  induction left with
  | nil =>
      intro otherLeft first second jobs alike
      rw [List.map_eq_nil_iff.mp jobs.symm]
      by_cases stopped : second.cancelled = true
      · rw [work_of_cancelled _ _ _ _ stopped,
          work_of_cancelled _ _ _ _ (alike.cancelled.trans stopped)]
        exact ⟨{ alike with error := .some (.same _) }, rfl⟩
      · have active : ¬ first.cancelled = true := by rwa [alike.cancelled]
        unfold work
        rw [if_neg stopped, if_neg active]
        cases fault with
        | none =>
            rw [Option.map_eq_none_iff.mp faults.symm]
            exact ⟨alike, rfl⟩
        | some fault =>
            rcases Option.map_eq_some_iff.mp faults.symm with ⟨otherFault, rfl, same⟩
            have told := alike.tell cancellation (.malformed same.symm)
            exact ⟨{ told with error := .some (.malformed same.symm) }, rfl⟩
  | cons task rest induction =>
      intro otherLeft first second jobs alike
      cases otherLeft with
      | nil => cases jobs
      | cons otherTask otherRest =>
          rcases List.cons.inj jobs with ⟨same, behind⟩
          by_cases stopped : second.cancelled = true
          · rw [work_of_cancelled _ _ _ _ stopped,
              work_of_cancelled _ _ _ _ (alike.cancelled.trans stopped)]
            exact ⟨{ alike with error := .some (.same _) }, rfl⟩
          · have active : ¬ first.cancelled = true := by rwa [alike.cancelled]
            rw [work, work, if_neg stopped, if_neg active]
            have taken := alike.perform cancellation database same
            generalize first.perform database cancellation task = step,
              second.perform database cancellation otherTask = otherStep at taken
            rcases step with ⟨next, stop⟩
            rcases otherStep with ⟨otherNext, otherStop⟩
            rcases taken with ⟨performed, stops⟩
            dsimp only at performed stops
            subst stops
            cases stop with
            | true => exact ⟨performed, rfl⟩
            | false => exact induction otherRest next otherNext behind performed

end Run

theorem runScript_alike {σ : Type} (database : Database σ) (state : σ)
    (cancellation : Cancellation) {options otherOptions : Options} {script other : List Char}
    (alike : (parseScript script options).AsksAlike (parseScript other otherOptions)) :
    (runScript database state cancellation options script).1.Alike
        (runScript database state cancellation otherOptions other).1 ∧
      (runScript database state cancellation options script).2 =
        (runScript database state cancellation otherOptions other).2 := by
  have jobs : (tasks 1 (parseScript script options).deliveries).map Task.job =
      (tasks 1 (parseScript other otherOptions).deliveries).map Task.job := by
    rw [jobs_tasks, jobs_tasks]
    exact alike.jobs
  have start : (Run.start state cancellation.before).Alike
      (Run.start state cancellation.before) := ⟨rfl, rfl, rfl, .nil, rfl, rfl, .none⟩
  have worked := Run.work_alike database cancellation alike.fault _ _ _ _ jobs start
  rw [← Run.runAll_eq_work, ← Run.runAll_eq_work] at worked
  rcases worked with ⟨run, code⟩
  refine ⟨⟨code, run.executed, run.failed, run.error, ?_⟩, run.database⟩
  exact List.rel_reverse run.events

end Batchwise
