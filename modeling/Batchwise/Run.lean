import Batchwise.Pass.Parsed
import Batchwise.Run.Event

namespace Batchwise

/-! Running the batches of a script against a database. Whoever listens to the
events of a run may cancel it while it is being told one. -/

inductive Call where
  | started
  | result
  | message
  | ended
  deriving DecidableEq, Repr

def Event.call : Event → Call
  | started .. => .started
  | result .. => .result
  | message .. => .message
  | ended .. => .ended

/-- When a run is cancelled: before it starts, or during the n-th event of a
kind, counted from one. -/
structure Cancellation where
  before : Bool
  during : Call → Nat → Bool

def Cancellation.never : Cancellation := ⟨false, fun _ _ => false⟩

structure Calls where
  started : Nat
  result : Nat
  message : Nat
  ended : Nat
  deriving DecidableEq, Repr

namespace Calls

def none : Calls := ⟨0, 0, 0, 0⟩

def count (calls : Calls) : Call → Nat
  | .started => calls.started
  | .result => calls.result
  | .message => calls.message
  | .ended => calls.ended

def add (calls : Calls) : Call → Calls
  | .started => { calls with started := calls.started + 1 }
  | .result => { calls with result := calls.result + 1 }
  | .message => { calls with message := calls.message + 1 }
  | .ended => { calls with ended := calls.ended + 1 }

end Calls

structure Run (σ : Type) where
  database : σ
  cancelled : Bool
  calls : Calls
  events : List Event
  executed : Nat
  failed : Nat
  /-- The error that stopped the run, or the last one that did not. -/
  error : Option ScriptError

structure Outcome where
  code : Code
  executed : Nat
  failed : Nat
  error : Option ScriptError
  events : List Event
  deriving DecidableEq, Repr

def affectedMessage (changes : UInt64) : String :=
  if changes = 1 then "(1 row affected)"
  else "(" ++ toString changes ++ " rows affected)"

def skippedMessage (batch : Nat) (count : Int) : String :=
  "Batch " ++ toString batch ++ " skipped: execution count " ++ toString count
    ++ " is not positive"

namespace Run

variable {σ : Type}

def start (database : σ) (cancelled : Bool) : Run σ :=
  ⟨database, cancelled, .none, [], 0, 0, none⟩

def tell (cancellation : Cancellation) (run : Run σ) (event : Event) : Run σ :=
  let calls := run.calls.add event.call
  { run with
    cancelled := run.cancelled || cancellation.during event.call (calls.count event.call)
    calls
    events := event :: run.events }

def tellAll (cancellation : Cancellation) (run : Run σ) (events : List Event) : Run σ :=
  events.foldl (tell cancellation) run

def report (execution : Execution) (sql : List Char) (reply : Reply) : List Event :=
  let results := reply.resultSets.mapIdx fun index result =>
    Event.result execution (index + 1) result
  let closing :=
    match reply.failure with
    | none =>
      (if 0 < reply.changes then [.message .info (affectedMessage reply.changes)] else [])
        ++ [.ended execution none]
    | some detail =>
      let text := (ScriptError.execution detail).message
      [.message .error text, .ended execution (some text)]
  .started execution sql :: results ++ closing

def execute (database : Database σ) (cancellation : Cancellation) (run : Run σ)
    (execution : Execution) (sql : List Char) : Run σ × Bool :=
  let (reply, state) := database.execute run.database sql
  let run := { run with database := state }.tellAll cancellation (report execution sql reply)
  match reply.failure with
  | none => ({ run with executed := run.executed + 1 }, false)
  | some detail =>
    ({ run with failed := run.failed + 1, error := some (.execution detail) }, true)

/-- Execute a batch as often as it remains to be done. The run stops when it has
been cancelled, and after a failure unless the policy is to go on. -/
def executeTimes (database : Database σ) (cancellation : Cancellation)
    (delivery : Delivery) (batch count : Nat) : Nat → Run σ → Run σ × Option Code
  | 0, run => (run, none)
  | remaining + 1, run =>
    if run.cancelled then ({ run with error := some .cancelled }, some .userCancelled)
    else
      let (next, failed) :=
        run.execute database cancellation ⟨batch, count - remaining, count⟩ delivery.batch.text
      if failed && !delivery.continueOnError then (next, some .batchFailed)
      else executeTimes database cancellation delivery batch count remaining next

/-- Run the batches that are left of a script, the first of which has the given
number, and then tell the fault that the script ends with, if it has one. -/
def runAll (database : Database σ) (cancellation : Cancellation) (fault : Option Fault) :
    Nat → List Delivery → Run σ → Run σ × Code
  | number, deliveries, run =>
    if run.cancelled then ({ run with error := some .cancelled }, .userCancelled)
    else
      match deliveries with
      | [] =>
        match fault with
        | none => (run, .success)
        | some fault =>
          let run := run.tell cancellation (.message .error fault.toError.message)
          ({ run with error := some fault.toError }, .parseError)
      | delivery :: rest =>
        if delivery.batch.isExecutable then
          let count := delivery.batch.count.toNat
          match executeTimes database cancellation delivery number count count run with
          | (run, some code) => (run, code)
          | (run, none) => runAll database cancellation fault (number + 1) rest run
        else
          let skipped := skippedMessage number delivery.batch.count
          runAll database cancellation fault (number + 1) rest
            (run.tell cancellation (.message .warning skipped))

def finish (run : Run σ) (code : Code) : Outcome :=
  ⟨code, run.executed, run.failed, run.error, run.events.reverse⟩

end Run

def runScript {σ : Type} (database : Database σ) (state : σ) (cancellation : Cancellation)
    (options : Options) (script : List Char) : Outcome × σ :=
  let parsed := parseScript script options
  let (run, code) := Run.runAll database cancellation parsed.fault 1 parsed.deliveries
    (.start state cancellation.before)
  (run.finish code, run.database)

def Outcome.unconnected (detail : String) : Outcome :=
  let error := ScriptError.connection detail
  ⟨.connectionFailed, 0, 0, some error, [.message .error error.message]⟩

/-- Take the connection to a database and run a script on it. Without a connection the
script is not read. -/
def Databases.runScript {σ : Type} (databases : Databases σ) (state : σ)
    (cancellation : Cancellation) (options : Options) (script : List Char) : Outcome × σ :=
  match databases.acquire state with
  | .error detail => (.unconnected detail, state)
  | .ok connection =>
    Batchwise.runScript databases.toDatabase connection cancellation options script

end Batchwise
