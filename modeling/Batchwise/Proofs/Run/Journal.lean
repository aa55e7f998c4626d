import Batchwise.Proofs.Run.Trace

namespace Batchwise

/-! A run as a journal. The batches of a script make up tasks: one for each execution,
and one for each batch that is skipped. The journal tells what becomes of each task when
nothing stops the run. Every run does the tasks at the front of its journal, one after
the other, and stops behind one of them or at the end. -/

inductive Task where
  | skip (number : Nat) (count : Int)
  | execute (execution : Execution) (delivery : Delivery)

def Delivery.tasks (number : Nat) (delivery : Delivery) : List Task :=
  if delivery.batch.isExecutable then
    (List.range' 1 delivery.batch.count.toNat).map fun index =>
      .execute ⟨number, index, delivery.batch.count.toNat⟩ delivery
  else [.skip number delivery.batch.count]

def tasks (number : Nat) : List Delivery → List Task
  | [] => []
  | delivery :: rest => delivery.tasks number ++ tasks (number + 1) rest

inductive Entry where
  | skipped (number : Nat) (count : Int)
  | executed (execution : Execution) (delivery : Delivery) (reply : Reply)

namespace Entry

def events : Entry → List Event
  | skipped number count => [.message .warning (skippedMessage number count)]
  | executed execution delivery reply => Run.report execution delivery.batch.text reply

def failure? : Entry → Option String
  | skipped .. => none
  | executed _ _ reply => reply.failure

def stops : Entry → Bool
  | skipped .. => false
  | executed _ delivery reply => reply.failure.isSome && !delivery.continueOnError

end Entry

def eventsOf (entries : List Entry) : List Event :=
  entries.flatMap Entry.events

def failuresOf (entries : List Entry) : List String :=
  entries.filterMap Entry.failure?

@[simp] theorem eventsOf_nil : eventsOf [] = [] := rfl

@[simp] theorem eventsOf_append (first second : List Entry) :
    eventsOf (first ++ second) = eventsOf first ++ eventsOf second :=
  List.flatMap_append

@[simp] theorem eventsOf_singleton (entry : Entry) : eventsOf [entry] = entry.events :=
  List.flatMap_singleton _ _

@[simp] theorem failuresOf_append (first second : List Entry) :
    failuresOf (first ++ second) = failuresOf first ++ failuresOf second :=
  List.filterMap_append

@[simp] theorem failuresOf_singleton (entry : Entry) :
    failuresOf [entry] = entry.failure?.toList := by
  cases failure : entry.failure? <;> simp [failuresOf, failure]

section Journal

variable {σ : Type}

def Task.perform (database : Database σ) (state : σ) : Task → Entry × σ
  | skip number count => (.skipped number count, state)
  | execute execution delivery =>
    let (reply, next) := database.execute state delivery.batch.text
    (.executed execution delivery reply, next)

/-- What becomes of the tasks if all of them are done. -/
def journal (database : Database σ) : σ → List Task → List Entry
  | _, [] => []
  | state, task :: rest =>
    let (entry, next) := task.perform database state
    entry :: journal database next rest

end Journal

/-! ## When a run is cancelled -/

namespace Cancellation

/-- The run has been cancelled before it started, or during one of the events that it
has told. -/
def Reached (cancellation : Cancellation) (told : List Event) : Prop :=
  cancellation.before = true ∨
    ∃ front event, front ++ [event] <+: told ∧
      cancellation.during event.call
        ((front ++ [event]).countP fun other => other.call = event.call) = true

variable {cancellation : Cancellation}

@[simp] theorem reached_nil : cancellation.Reached [] ↔ cancellation.before = true := by
  simp [Reached]

theorem Reached.mono {told more : List Event} (reached : cancellation.Reached told)
    (isPrefix : told <+: more) : cancellation.Reached more := by
  apply reached.imp_right
  intro during
  rcases during with ⟨front, event, earlier, cancels⟩
  exact ⟨front, event, earlier.trans isPrefix, cancels⟩

theorem reached_concat (told : List Event) (event : Event) :
    cancellation.Reached (told ++ [event]) ↔ cancellation.Reached told ∨
      cancellation.during event.call
        ((told ++ [event]).countP fun other => other.call = event.call) = true := by
  constructor
  · intro reached
    rcases reached with before | ⟨front, other, isPrefix, cancels⟩
    · exact .inl (.inl before)
    · rcases List.prefix_concat_iff.mp isPrefix with equal | earlier
      · rcases List.append_inj' equal rfl with ⟨sameFront, sameEvent⟩
        cases sameEvent
        subst sameFront
        exact .inr cancels
      · exact .inl (.inr ⟨front, other, earlier, cancels⟩)
  · intro reached
    rcases reached with earlier | cancels
    · exact earlier.mono (List.prefix_append _ _)
    · exact .inr ⟨told, event, List.prefix_rfl, cancels⟩

end Cancellation

namespace Calls

theorem count_add (calls : Calls) (call other : Call) :
    (calls.add call).count other = calls.count other + if call = other then 1 else 0 := by
  cases call <;> cases other <;> rfl

end Calls

namespace Run

variable {σ : Type}

/-- The run has told these events and nothing else, and knows whether one of them has
cancelled it. -/
structure Tracks (cancellation : Cancellation) (told : List Event) (run : Run σ) :
    Prop where
  events : run.events = told.reverse
  calls : ∀ call, run.calls.count call = told.countP fun event => event.call = call
  cancelled : run.cancelled = true ↔ cancellation.Reached told

theorem tracks_start (database : σ) (cancellation : Cancellation) :
    Tracks cancellation [] (start database cancellation.before) where
  events := rfl
  calls := by
    intro call
    cases call <;> rfl
  cancelled := Cancellation.reached_nil.symm

theorem Tracks.tell {cancellation : Cancellation} {told : List Event} {run : Run σ}
    (tracks : Tracks cancellation told run) (event : Event) :
    Tracks cancellation (told ++ [event]) (run.tell cancellation event) where
  events := by
    rw [List.reverse_append, Run.tell, tracks.events]
    rfl
  calls := by
    intro call
    rw [Run.tell, Calls.count_add, tracks.calls, List.countP_append, List.countP_singleton]
    simp
  cancelled := by
    have counted := Calls.count_add run.calls event.call event.call
    rw [if_pos rfl, tracks.calls] at counted
    rw [Cancellation.reached_concat, List.countP_append, List.countP_singleton, Run.tell]
    simp [counted, tracks.cancelled]

theorem Tracks.tellAll {cancellation : Cancellation} {told : List Event} {run : Run σ}
    (tracks : Tracks cancellation told run) (events : List Event) :
    Tracks cancellation (told ++ events) (run.tellAll cancellation events) := by
  induction events generalizing told run with
  | nil =>
      rw [List.append_nil]
      exact tracks
  | cons event rest induction =>
      have onward := induction (tracks.tell event)
      rw [List.append_assoc] at onward
      exact onward

theorem error_tellAll (cancellation : Cancellation) (run : Run σ) (events : List Event) :
    (run.tellAll cancellation events).error = run.error := by
  induction events generalizing run with
  | nil => rfl
  | cons event rest induction => exact induction (run.tell cancellation event)

/-! ## One task after the other -/

def perform (database : Database σ) (cancellation : Cancellation) (run : Run σ) :
    Task → Run σ × Bool
  | .skip number count =>
    (run.tell cancellation (.message .warning (skippedMessage number count)), false)
  | .execute execution delivery =>
    let (next, failed) := run.execute database cancellation execution delivery.batch.text
    (next, failed && !delivery.continueOnError)

def work (database : Database σ) (cancellation : Cancellation) (fault : Option Fault) :
    List Task → Run σ → Run σ × Code
  | left, run =>
    if run.cancelled then ({ run with error := some .cancelled }, .userCancelled)
    else
      match left with
      | [] =>
        match fault with
        | none => (run, .success)
        | some fault =>
          let run := run.tell cancellation (.message .error fault.toError.message)
          ({ run with error := some fault.toError }, .parseError)
      | task :: rest =>
        match run.perform database cancellation task with
        | (next, true) => (next, .batchFailed)
        | (next, false) => work database cancellation fault rest next

theorem work_of_cancelled (database : Database σ) (cancellation : Cancellation)
    (fault : Option Fault) (left : List Task) {run : Run σ} (stopped : run.cancelled = true) :
    work database cancellation fault left run =
      ({ run with error := some .cancelled }, .userCancelled) := by
  unfold work
  rw [if_pos stopped]

theorem work_executions (database : Database σ) (cancellation : Cancellation)
    (fault : Option Fault) (delivery : Delivery) (number count remaining : Nat)
    (few : remaining ≤ count) (rest : List Task) (run : Run σ) :
    work database cancellation fault
        (((List.range' (count - remaining + 1) remaining).map fun index =>
          .execute ⟨number, index, count⟩ delivery) ++ rest) run =
      match executeTimes database cancellation delivery number count remaining run with
      | (next, some code) => (next, code)
      | (next, none) => work database cancellation fault rest next := by
  induction remaining generalizing run with
  | zero => rfl
  | succ remaining induction =>
      have index : count - (remaining + 1) + 1 = count - remaining := by omega
      rw [index, List.range'_succ, List.map_cons, List.cons_append, executeTimes]
      by_cases stopped : run.cancelled = true
      · rw [work_of_cancelled _ _ _ _ stopped, if_pos stopped]
      · rw [work, if_neg stopped, if_neg stopped]
        dsimp only [perform]
        rcases run.execute database cancellation ⟨number, count - remaining, count⟩
          delivery.batch.text with ⟨next, failed⟩
        dsimp only
        cases failed && !delivery.continueOnError with
        | true => rfl
        | false => exact induction (Nat.le_of_succ_le few) next

theorem runAll_eq_work (database : Database σ) (cancellation : Cancellation)
    (fault : Option Fault) (number : Nat) (deliveries : List Delivery) (run : Run σ) :
    runAll database cancellation fault number deliveries run =
      work database cancellation fault (tasks number deliveries) run := by
  induction deliveries generalizing number run with
  | nil =>
      unfold runAll work
      rfl
  | cons delivery rest induction =>
      by_cases stopped : run.cancelled = true
      · rw [work_of_cancelled _ _ _ _ stopped, runAll, if_pos stopped]
      · have active := Bool.eq_false_iff.mpr stopped
        rw [runAll_cons _ _ _ _ _ _ active, take, tasks, Delivery.tasks]
        by_cases executable : delivery.batch.isExecutable = true
        · rw [if_pos executable, if_pos executable]
          have executions := work_executions database cancellation fault delivery number
            delivery.batch.count.toNat delivery.batch.count.toNat (Nat.le_refl _)
            (tasks (number + 1) rest) run
          rw [Nat.sub_self, Nat.zero_add] at executions
          rw [executions]
          rcases executeTimes database cancellation delivery number
            delivery.batch.count.toNat delivery.batch.count.toNat run with ⟨next, code⟩
          cases code with
          | none => exact induction (number + 1) next
          | some code => rfl
        · rw [if_neg executable, if_neg executable, List.singleton_append, work,
            if_neg stopped]
          exact induction (number + 1) _

/-! ## How far a run comes in its journal -/

structure Keeps (cancellation : Cancellation) (done : List Entry) (run : Run σ) : Prop where
  tracks : Tracks cancellation (eventsOf done) run
  error : run.error = (failuresOf done).getLast?.map .execution
  failed : run.failed = (failuresOf done).length

theorem Keeps.told {cancellation : Cancellation} {done : List Entry} {run : Run σ}
    (keeps : Keeps cancellation done run) : run.events.reverse = eventsOf done := by
  rw [keeps.tracks.events, List.reverse_reverse]

/-- One more entry is done: its events are told, and its failure takes the place of the
error that was there. -/
theorem Keeps.concat {cancellation : Cancellation} {done : List Entry} {run next : Run σ}
    {entry : Entry} (keeps : Keeps cancellation done run)
    (tracks : Tracks cancellation (eventsOf done ++ entry.events) next)
    (error : next.error = (entry.failure?.map .execution).or run.error)
    (failed : next.failed = run.failed + entry.failure?.toList.length) :
    Keeps cancellation (done ++ [entry]) next where
  tracks := by
    rwa [eventsOf_append, eventsOf_singleton]
  error := by
    rw [error, keeps.error, failuresOf_append, failuresOf_singleton]
    cases entry.failure? with
    | none =>
        rw [Option.toList_none, List.append_nil]
        rfl
    | some detail =>
        rw [Option.toList_some, List.getLast?_concat]
        rfl
  failed := by
    rw [failed, keeps.failed, failuresOf_append, failuresOf_singleton, List.length_append]

theorem Keeps.perform {cancellation : Cancellation} {done : List Entry} {run next : Run σ}
    {database : Database σ} {task : Task} {entry : Entry} {state : σ} {stop : Bool}
    (keeps : Keeps cancellation done run)
    (performed : task.perform database run.database = (entry, state))
    (taken : run.perform database cancellation task = (next, stop)) :
    Keeps cancellation (done ++ [entry]) next ∧ stop = entry.stops ∧
      next.database = state := by
  cases task with
  | skip number count =>
      cases performed
      cases taken
      exact ⟨keeps.concat (keeps.tracks.tell _) rfl rfl, rfl, rfl⟩
  | execute execution delivery =>
      rcases replied : database.execute run.database delivery.batch.text with ⟨reply, behind⟩
      rw [Task.perform, replied] at performed
      rw [Run.perform, Run.execute, replied] at taken
      cases performed
      have tracks : Tracks cancellation (eventsOf done) { run with database := state } :=
        ⟨keeps.tracks.events, keeps.tracks.calls, keeps.tracks.cancelled⟩
      have reported := tracks.tellAll (report execution delivery.batch.text reply)
      have sameError := error_tellAll cancellation { run with database := state }
        (report execution delivery.batch.text reply)
      rcases tellAll_fields cancellation { run with database := state }
        (report execution delivery.batch.text reply) with ⟨-, -, sameFailed, sameState⟩
      dsimp only at taken
      generalize tellAll cancellation { run with database := state }
        (report execution delivery.batch.text reply) = told
        at taken reported sameError sameFailed sameState
      rw [Entry.stops]
      cases failure : reply.failure with
      | none =>
          rw [failure] at taken
          cases taken
          refine ⟨keeps.concat ⟨reported.events, reported.calls, reported.cancelled⟩ ?_ ?_, rfl,
            sameState⟩
          · rw [Entry.failure?, failure]
            exact sameError
          · rw [Entry.failure?, failure]
            exact sameFailed
      | some detail =>
          rw [failure] at taken
          cases taken
          refine ⟨keeps.concat ⟨reported.events, reported.calls, reported.cancelled⟩ ?_ ?_, rfl,
            sameState⟩
          · rw [Entry.failure?, failure]
            rfl
          · rw [Entry.failure?, failure]
            exact congrArg (· + 1) sameFailed

/-- A run goes on behind these entries: nobody has cancelled it, and the last of them
does not stop it. -/
structure GoesOn (cancellation : Cancellation) (done : List Entry) : Prop where
  active : ¬ cancellation.Reached (eventsOf done)
  tolerated : ∀ last ∈ done.getLast?, last.stops = false

def Unhindered (cancellation : Cancellation) (done : List Entry) : Prop :=
  ∀ front entry back, done = front ++ entry :: back → GoesOn cancellation front

theorem Unhindered.concat {cancellation : Cancellation} {done : List Entry}
    (unhindered : Unhindered cancellation done) (onward : GoesOn cancellation done)
    (entry : Entry) : Unhindered cancellation (done ++ [entry]) := by
  intro front other back split
  rcases List.eq_nil_or_concat back with empty | ⟨middle, last, equal⟩
  · subst empty
    rcases List.append_inj' split rfl with ⟨same, -⟩
    rwa [← same]
  · rw [equal, List.concat_eq_append, ← List.cons_append, ← List.append_assoc] at split
    exact unhindered front other middle (List.append_inj' split rfl).1

/-- Why a run stops behind these entries with `left` still to do, the error that it ends
with, and what it tells last. -/
inductive Halts (cancellation : Cancellation) (fault : Option Fault)
    (done left : List Entry) : Code → Option ScriptError → List Event → Prop
  | failed {front : List Entry} {last : Entry} {detail : String}
      (behind : done = front ++ [last]) (failure : last.failure? = some detail)
      (stops : last.stops = true) :
      Halts cancellation fault done left .batchFailed (some (.execution detail)) []
  | cancelled (reached : cancellation.Reached (eventsOf done))
      (tolerated : ∀ last ∈ done.getLast?, last.stops = false) :
      Halts cancellation fault done left .userCancelled (some .cancelled) []
  | unreadable {found : Fault} (whole : left = []) (onward : GoesOn cancellation done)
      (isFault : fault = some found) :
      Halts cancellation fault done left .parseError (some found.toError)
        [.message .error found.toError.message]
  | finished (whole : left = []) (onward : GoesOn cancellation done)
      (readable : fault = none) :
      Halts cancellation fault done left .success ((failuresOf done).getLast?.map .execution)
        []

theorem Entry.failure?_of_stops {entry : Entry} (stops : entry.stops = true) :
    ∃ detail, entry.failure? = some detail := by
  cases entry with
  | skipped => cases stops
  | executed execution delivery reply =>
      exact Option.isSome_iff_exists.mp (Bool.and_eq_true_iff.mp stops).1

/-- A run has done so many entries of its journal, and has stopped behind them. -/
structure Follows (cancellation : Cancellation) (fault : Option Fault)
    (whole done left : List Entry) (ending : List Event) (after : Run σ × Code) : Prop where
  split : whole = done ++ left
  unhindered : Unhindered cancellation done
  halts : Halts cancellation fault done left after.2 after.1.error ending
  told : after.1.events.reverse = eventsOf done ++ ending
  failed : after.1.failed = (failuresOf done).length

theorem work_follows (database : Database σ) (cancellation : Cancellation)
    (fault : Option Fault) (left : List Task) {done : List Entry} {run : Run σ}
    (keeps : Keeps cancellation done run) (unhindered : Unhindered cancellation done)
    (tolerated : ∀ last ∈ done.getLast?, last.stops = false) :
    ∃ more behind ending, Follows cancellation fault
      (done ++ journal database run.database left) (done ++ more) behind ending
      (work database cancellation fault left run) := by
  induction left generalizing done run with
  | nil =>
      refine ⟨[], [], ?_⟩
      rw [List.append_nil]
      by_cases stopped : run.cancelled = true
      · rw [work_of_cancelled _ _ _ _ stopped]
        refine ⟨[], rfl, unhindered, ?_, ?_, keeps.failed⟩
        · exact .cancelled (keeps.tracks.cancelled.mp stopped) tolerated
        · rw [List.append_nil]
          exact keeps.told
      · have onward : GoesOn cancellation done :=
          ⟨mt keeps.tracks.cancelled.mpr stopped, tolerated⟩
        unfold work
        rw [if_neg stopped]
        cases fault with
        | none =>
            refine ⟨[], rfl, unhindered, ?_, ?_, keeps.failed⟩
            · dsimp only
              rw [keeps.error]
              exact .finished rfl onward rfl
            · rw [List.append_nil]
              exact keeps.told
        | some found =>
            refine ⟨_, rfl, unhindered, .unreadable rfl onward rfl, ?_, keeps.failed⟩
            rw [← keeps.told]
            exact List.reverse_cons
  | cons task rest induction =>
      by_cases stopped : run.cancelled = true
      · rw [work_of_cancelled _ _ _ _ stopped]
        refine ⟨[], journal database run.database (task :: rest), [], ?_⟩
        rw [List.append_nil]
        refine ⟨rfl, unhindered, ?_, ?_, keeps.failed⟩
        · exact .cancelled (keeps.tracks.cancelled.mp stopped) tolerated
        · rw [List.append_nil]
          exact keeps.told
      · have onward : GoesOn cancellation done :=
          ⟨mt keeps.tracks.cancelled.mpr stopped, tolerated⟩
        rw [work, if_neg stopped, journal]
        rcases performed : task.perform database run.database with ⟨entry, state⟩
        rcases taken : run.perform database cancellation task with ⟨next, stop⟩
        rcases keeps.perform performed taken with ⟨keepsNext, sameStop, sameState⟩
        have unhinderedNext := unhindered.concat onward entry
        dsimp only
        cases stops : entry.stops with
        | true =>
            rcases Entry.failure?_of_stops stops with ⟨detail, failure⟩
            have error : next.error = some (.execution detail) := by
              rw [keepsNext.error, failuresOf_append, failuresOf_singleton, failure,
                Option.toList_some, List.getLast?_concat]
              rfl
            rw [sameStop, stops]
            refine ⟨[entry], journal database state rest, [], ?_, unhinderedNext, ?_, ?_,
              keepsNext.failed⟩
            · rw [List.append_assoc]
              rfl
            · dsimp only
              rw [error]
              exact .failed rfl failure stops
            · rw [List.append_nil]
              exact keepsNext.told
        | false =>
            rw [sameStop, stops]
            have toleratedNext : ∀ last ∈ (done ++ [entry]).getLast?, last.stops = false := by
              simp [stops]
            rcases induction keepsNext unhinderedNext toleratedNext with
              ⟨more, behind, ending, follows⟩
            rw [sameState, List.append_assoc, List.append_assoc] at follows
            exact ⟨entry :: more, behind, ending, follows⟩

namespace Follows

variable {cancellation : Cancellation} {fault : Option Fault}
  {whole before after left : List Entry} {entry : Entry} {ending : List Event}
  {run : Run σ × Code}

theorem last_of_stops
    (follows : Follows cancellation fault whole (before ++ entry :: after) left ending run)
    (stops : entry.stops = true) :
    after = [] ∧ ending = [] ∧ run.2 = .batchFailed ∧
      ∃ detail, entry.failure? = some detail ∧ run.1.error = some (.execution detail) := by
  cases after with
  | cons next after =>
      have onward := follows.unhindered (before ++ [entry]) next after (by simp)
      cases stops.symm.trans (onward.tolerated entry (by simp))
  | nil =>
      have halts := follows.halts
      generalize run.2 = code, run.1.error = error at halts
      cases halts with
      | failed behind failure =>
          rcases List.append_inj' behind rfl with ⟨-, same⟩
          cases same
          exact ⟨rfl, rfl, rfl, _, failure, rfl⟩
      | cancelled _ tolerated => cases stops.symm.trans (tolerated entry (by simp))
      | unreadable _ onward | finished _ onward =>
          cases stops.symm.trans (onward.tolerated entry (by simp))

theorem last_of_reached
    (follows : Follows cancellation fault whole (before ++ entry :: after) left ending run)
    (tolerated : entry.stops = false)
    (reached : cancellation.Reached (eventsOf (before ++ [entry]))) :
    after = [] ∧ ending = [] ∧ run.2 = .userCancelled ∧ run.1.error = some .cancelled := by
  cases after with
  | cons next after =>
      have onward := follows.unhindered (before ++ [entry]) next after (by simp)
      exact absurd reached onward.active
  | nil =>
      have halts := follows.halts
      generalize run.2 = code, run.1.error = error at halts
      cases halts with
      | failed behind _ stops =>
          rcases List.append_inj' behind rfl with ⟨-, same⟩
          cases same
          cases stops.symm.trans tolerated
      | cancelled => exact ⟨rfl, rfl, rfl, rfl⟩
      | unreadable _ onward | finished _ onward => exact absurd reached onward.active

theorem finished_of_last
    (follows : Follows cancellation fault whole (before ++ [entry]) left ending run)
    (tolerated : entry.stops = false)
    (active : ¬ cancellation.Reached (eventsOf (before ++ [entry]))) :
    left = [] ∧ (run.2 = .success ∨ run.2 = .parseError) := by
  have halts := follows.halts
  generalize run.2 = code, run.1.error = error at halts
  cases halts with
  | failed behind _ stops =>
      rcases List.append_inj' behind rfl with ⟨-, same⟩
      cases same
      cases stops.symm.trans tolerated
  | cancelled reached => exact absurd reached active
  | unreadable nothing => exact ⟨nothing, .inr rfl⟩
  | finished nothing => exact ⟨nothing, .inl rfl⟩

end Follows

end Run

/-- A run of a script follows the journal of its batches, and stops somewhere in it. -/
theorem runScript_follows {σ : Type} (database : Database σ) (state : σ)
    (cancellation : Cancellation) (options : Options) (script : List Char) :
    let parsed := parseScript script options
    ∃ done left ending, Run.Follows cancellation parsed.fault
      (journal database state (tasks 1 parsed.deliveries)) done left ending
      (Run.runAll database cancellation parsed.fault 1 parsed.deliveries
        (.start state cancellation.before)) := by
  intro parsed
  have keeps : Run.Keeps cancellation [] (Run.start state cancellation.before) :=
    ⟨Run.tracks_start state cancellation, rfl, rfl⟩
  have unhindered : Run.Unhindered cancellation [] := by
    intro front entry back split
    simp at split
  rw [Run.runAll_eq_work]
  exact Run.work_follows database cancellation parsed.fault _ keeps unhindered (by simp)

end Batchwise
