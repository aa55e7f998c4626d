import Batchwise.Proofs.Pass.Policy
import Batchwise.Proofs.Run.Cancellation

namespace Batchwise

/-! How a run ends. A failed execution stops a run exactly if the error policy of its
batch says so. The code, the error and the counts of a run tell the same story: the
error of a tolerated failure stays until a later one, a cancellation or the fault of the
script takes its place. -/

namespace Run

structure Heeds (cancellation : Cancellation) (left : List Entry) (outcome : Outcome)
    (front : List Entry) (failing : Entry) (back : List Entry) (policy : Bool)
    (detail : String) : Prop where
  stops : policy = false →
    back = [] ∧ outcome.events = eventsOf (front ++ [failing]) ∧
      outcome.code = .batchFailed ∧ outcome.error = some (.execution detail)
  goesOn : policy = true → ¬ cancellation.Reached (eventsOf (front ++ [failing])) →
    back = [] → left = [] ∧ (outcome.code = .success ∨ outcome.code = .parseError)
  givesUp : policy = true → cancellation.Reached (eventsOf (front ++ [failing])) →
    back = [] ∧ outcome.code = .userCancelled

structure Agrees (done : List Entry) (outcome : Outcome) : Prop where
  failed : outcome.failed = (failuresOf done).length
  faultless : outcome.error = none ↔ outcome.code = .success ∧ outcome.failed = 0
  tolerated : outcome.code = .success →
    outcome.error = (failuresOf done).getLast?.map .execution
  cancelled : outcome.code = .userCancelled ↔ outcome.error = some .cancelled
  unreadable : outcome.code = .parseError ↔
    ∃ line column message, outcome.error = some (.malformed line column message)
  stopped : outcome.code = .batchFailed →
    1 ≤ outcome.failed ∧ ∃ front execution delivery reply detail,
      done = front ++ [.executed execution delivery reply] ∧
      reply.failure = some detail ∧ delivery.continueOnError = false ∧
      outcome.error = some (.execution detail) ∧
      outcome.events.getLast? =
        some (.ended execution (some (ScriptError.execution detail).message))

theorem getLast?_report (execution : Execution) (sql : List Char) (reply : Reply) :
    (report execution sql reply).getLast? = some (.ended execution reply.failureText?) := by
  rcases (tells_report execution sql reply).between with ⟨between, equal, -⟩
  rw [equal, List.getLast?_concat]

theorem getLast?_eventsOf {front : List Entry} {execution : Execution} {delivery : Delivery}
    {reply : Reply} {detail : String} (failure : reply.failure = some detail) :
    (eventsOf (front ++ [.executed execution delivery reply])).getLast? =
      some (.ended execution (some (ScriptError.execution detail).message)) := by
  have nonempty : report execution delivery.batch.text reply ≠ [] := by
    rw [report]
    exact List.cons_ne_nil _ _
  rw [eventsOf_append, eventsOf_singleton, Entry.events,
    List.getLast?_append_of_ne_nil _ nonempty, getLast?_report, Reply.failureText?, failure]
  rfl

theorem Halts.agrees {cancellation : Cancellation} {fault : Option Fault}
    {done left : List Entry} {ending : List Event} {outcome : Outcome}
    (halts : Halts cancellation fault done left outcome.code outcome.error ending)
    (failed : outcome.failed = (failuresOf done).length)
    (told : outcome.events = eventsOf done ++ ending) : Agrees done outcome := by
  rcases outcome with ⟨code, executed, failures, error, events⟩
  dsimp only at halts failed told
  cases halts with
  | @failed front last detail behind failure stops =>
      subst behind
      cases last with
      | skipped => cases stops
      | executed execution delivery reply =>
          have policy : delivery.continueOnError = false := by
            simpa using (Bool.and_eq_true_iff.mp stops).2
          have positive : 1 ≤ failures := by
            rw [failed, failuresOf_append, failuresOf_singleton, failure]
            simp
          rw [List.append_nil] at told
          refine ⟨failed, by simp, by simp, by simp, by simp, ?_⟩
          intro stopped
          refine ⟨positive, front, execution, delivery, reply, detail, rfl, failure, policy,
            rfl, ?_⟩
          rw [told]
          exact getLast?_eventsOf failure
  | cancelled reached tolerated =>
      exact ⟨failed, by simp, by simp, by simp, by simp, by simp⟩
  | @unreadable found whole onward isFault =>
      refine ⟨failed, by simp, by simp, by simp [Fault.toError], ?_, by simp⟩
      simp [Fault.toError]
  | finished whole onward readable =>
      refine ⟨failed, ?_, by simp, by simp, by simp, by simp⟩
      simp [failed]

theorem Halts.whole {cancellation : Cancellation} {fault : Option Fault}
    {done left : List Entry} {code : Code} {error : Option ScriptError} {ending : List Event}
    (halts : Halts cancellation fault done left code error ending)
    (onward : code = .success ∨ code = .parseError) : left = [] := by
  cases halts with
  | failed | cancelled => simp at onward
  | unreadable whole | finished whole => exact whole

theorem Follows.heeds {σ : Type} {cancellation : Cancellation} {fault : Option Fault}
    {whole front back left : List Entry} {execution : Execution} {delivery : Delivery}
    {reply : Reply} {ending : List Event} {run : Run σ} {code : Code} {detail : String}
    (follows : Follows cancellation fault whole
      (front ++ .executed execution delivery reply :: back) left ending (run, code))
    (failure : reply.failure = some detail) :
    Heeds cancellation left (run.finish code) front (.executed execution delivery reply) back
      delivery.continueOnError detail := by
  have stops : (Entry.executed execution delivery reply).stops =
      !delivery.continueOnError := by
    rw [Entry.stops, failure]
    rfl
  constructor
  · intro policy
    rw [policy] at stops
    rcases follows.last_of_stops stops with ⟨rfl, rfl, code, other, failureToo, error⟩
    cases failure.symm.trans failureToo
    refine ⟨rfl, ?_, code, error⟩
    have told := follows.told
    rwa [List.append_nil] at told
  · intro policy active last
    subst last
    rw [policy] at stops
    exact follows.finished_of_last stops active
  · intro policy reached
    rw [policy] at stops
    rcases follows.last_of_reached stops reached with ⟨nothing, -, code, -⟩
    exact ⟨nothing, code⟩

end Run

/-- A run does the executions at the front of its journal. The policy of each is the one
in force where its batch ends; a failed execution stops the run if that policy says so,
and otherwise the run goes on unless it is cancelled. A run that is neither stopped nor
cancelled has done all executions. The code, the error and the counts of the run agree
with what it has done. -/
theorem outcome_agrees_with_policy {σ : Type} (database : Database σ) (state : σ)
    (cancellation : Cancellation) (options : Options) (script : List Char) :
    let parsed := parseScript script options
    let parts := constructs options.mode.isScripting (Cursor.ofScript script).elements.elements
    let outcome := (runScript database state cancellation options script).1
    (runInterleaved database state cancellation options script).1 = outcome ∧
      ∃ done left ending,
        journal database state (tasks 1 parsed.deliveries) = done ++ left ∧
        outcome.events = eventsOf done ++ ending ∧
        (∀ event ∈ ending, event.boundary? = none) ∧
        (∀ execution delivery reply, .executed execution delivery reply ∈ done →
          ∃ closing, (closings [] [] parts)[execution.batch - 1]? = some closing ∧
            closing.Delivers options.continueOnError delivery) ∧
        (∀ front execution delivery reply back detail,
          done = front ++ .executed execution delivery reply :: back →
          reply.failure = some detail →
          Run.Heeds cancellation left outcome front (.executed execution delivery reply) back
            delivery.continueOnError detail) ∧
        (outcome.code = .success ∨ outcome.code = .parseError → left = []) ∧
        Run.Agrees done outcome := by
  intro parsed parts outcome
  refine ⟨congrArg Prod.fst (runInterleaved_eq_runScript _ _ _ _ _), ?_⟩
  rcases runScript_follows database state cancellation options script with
    ⟨done, left, ending, follows⟩
  refine ⟨done, left, ending, follows.split, follows.told, ?_, ?_, ?_,
    follows.halts.whole, ?_⟩
  · intro event member
    exact follows.halts.boundary?_of_mem member
  · intro execution delivery reply member
    have inJournal : .executed execution delivery reply ∈
        journal database state (tasks 1 parsed.deliveries) := by
      rw [follows.split]
      exact List.mem_append_left _ member
    apply delivers_of_parseScript
    exact getElem?_of_mem_journal inJournal
  · intro front execution delivery reply back detail split failure
    subst split
    exact follows.heeds failure
  · exact follows.halts.agrees follows.failed follows.told

end Batchwise
