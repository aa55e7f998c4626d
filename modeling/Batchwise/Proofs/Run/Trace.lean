import Batchwise.Proofs.Run.Interleaving

namespace Batchwise

/-! The trace of a run. Batches are numbered from one, in the order in which they are
met. One that is not executable is skipped with a warning. Every other one is executed
again and again, and each execution is told from its start to its end. The grammar below
follows the batches and what the database replies; it does not speak of cancellation,
which can only make a trace end earlier. -/

namespace Event

def succeeds : Event → Bool
  | ended _ none => true
  | _ => false

def fails : Event → Bool
  | ended _ (some _) => true
  | _ => false

end Event

def resultEvents (execution : Execution) : Nat → List ResultSet → List Event
  | _, [] => []
  | number, result :: rest =>
      .result execution number result :: resultEvents execution (number + 1) rest

/-- What is told of one execution to which the database replies so. -/
inductive Tells (execution : Execution) (sql : List Char) (reply : Reply) :
    List Event → Prop
  | unchanged (succeeded : reply.failure = none) (nothing : reply.changes = 0) :
      Tells execution sql reply
        (.started execution sql :: resultEvents execution 1 reply.resultSets ++
          [.ended execution none])
  | changed (succeeded : reply.failure = none) (something : 0 < reply.changes) :
      Tells execution sql reply
        (.started execution sql :: resultEvents execution 1 reply.resultSets ++
          [.message .info (affectedMessage reply.changes), .ended execution none])
  | failed {detail : String} (failure : reply.failure = some detail) :
      Tells execution sql reply
        (.started execution sql :: resultEvents execution 1 reply.resultSets ++
          [.message .error (ScriptError.execution detail).message,
            .ended execution (some (ScriptError.execution detail).message)])

section Grammar

variable {σ : Type}

/-- So many executions of a batch, the first of which has the given index. They lead
the database from one state to another. -/
inductive Repeats (database : Database σ) (number count : Nat) (sql : List Char) :
    (index times : Nat) → σ → List Event → σ → Prop
  | done {index : Nat} {state : σ} : Repeats database number count sql index 0 state [] state
  | again {index times : Nat} {state next final : σ} {reply : Reply}
      {events following : List Event} (replied : database.execute state sql = (reply, next))
      (told : Tells ⟨number, index, count⟩ sql reply events)
      (behind : Repeats database number count sql (index + 1) times next following final) :
      Repeats database number count sql index (times + 1) state (events ++ following) final

/-- What is told of batches, the first of which has the given number. Only the last of
them may be executed less often than it says, and it is executed at least once. -/
inductive Traces (database : Database σ) :
    Nat → List Batch → σ → List Event → σ → Prop
  | done {number : Nat} {state : σ} : Traces database number [] state [] state
  | skipped {number : Nat} {batch : Batch} {rest : List Batch} {state final : σ}
      {following : List Event} (notExecutable : batch.isExecutable = false)
      (behind : Traces database (number + 1) rest state following final) :
      Traces database number (batch :: rest) state
        (.message .warning (skippedMessage number batch.count) :: following) final
  | executed {number : Nat} {batch : Batch} {rest : List Batch} {state next final : σ}
      {events following : List Event} (executable : batch.isExecutable = true)
      (told : Repeats database number batch.count.toNat batch.text 1 batch.count.toNat state
        events next)
      (behind : Traces database (number + 1) rest next following final) :
      Traces database number (batch :: rest) state (events ++ following) final
  | stopped {number times : Nat} {batch : Batch} {state final : σ} {events : List Event}
      (positive : 0 < times) (short : times < batch.count.toNat)
      (told : Repeats database number batch.count.toNat batch.text 1 times state events
        final) :
      Traces database number [batch] state events final

/-- How a trace ends: a script that cannot be read on is told as an error, and nothing
else is. -/
inductive Concludes (fault : Option Fault) : Code → List Event → Prop
  | unreadable {found : Fault} (isFault : fault = some found) :
      Concludes fault .parseError [.message .error found.toError.message]
  | silent {code : Code} (read : code ≠ .parseError) : Concludes fault code []

end Grammar

namespace Run

variable {σ : Type}

/-- Between two states of a run these events are told, and the ends of executions among
them are counted. -/
structure Accounts (events : List Event) (run after : Run σ) : Prop where
  told : after.events = events.reverse ++ run.events
  executed : after.executed = run.executed + events.countP Event.succeeds
  failed : after.failed = run.failed + events.countP Event.fails

theorem Accounts.refl (run : Run σ) : Accounts [] run run where
  told := rfl
  executed := rfl
  failed := rfl

theorem Accounts.trans {first second : List Event} {run next after : Run σ}
    (front : Accounts first run next) (behind : Accounts second next after) :
    Accounts (first ++ second) run after where
  told := by
    rw [behind.told, front.told, List.reverse_append, List.append_assoc]
  executed := by
    rw [behind.executed, front.executed, List.countP_append, Nat.add_assoc]
  failed := by
    rw [behind.failed, front.failed, List.countP_append, Nat.add_assoc]

theorem accounts_tell_message (cancellation : Cancellation) (run : Run σ)
    (kind : MessageKind) (text : String) :
    Accounts [.message kind text] run (run.tell cancellation (.message kind text)) where
  told := rfl
  executed := rfl
  failed := rfl

theorem tellAll_fields (cancellation : Cancellation) (run : Run σ) (events : List Event) :
    (run.tellAll cancellation events).events = events.reverse ++ run.events ∧
      (run.tellAll cancellation events).executed = run.executed ∧
      (run.tellAll cancellation events).failed = run.failed ∧
      (run.tellAll cancellation events).database = run.database := by
  induction events generalizing run with
  | nil => exact ⟨rfl, rfl, rfl, rfl⟩
  | cons event rest induction =>
      rcases induction (run.tell cancellation event) with ⟨told, others⟩
      refine ⟨?_, others⟩
      rw [List.reverse_cons, List.append_assoc]
      exact told

theorem mapIdx_result (execution : Execution) (number : Nat) (results : List ResultSet) :
    (results.mapIdx fun index result => Event.result execution (index + number) result) =
      resultEvents execution number results := by
  induction results generalizing number with
  | nil => rfl
  | cons result rest induction =>
      rw [List.mapIdx_cons, Nat.zero_add, resultEvents, ← induction]
      simp only [Nat.add_assoc, Nat.add_comm 1 number]

theorem countP_resultEvents (counted : Event → Bool)
    (notResult : ∀ execution number result, counted (.result execution number result) = false)
    (execution : Execution) (number : Nat) (results : List ResultSet) :
    (resultEvents execution number results).countP counted = 0 := by
  induction results generalizing number with
  | nil => rfl
  | cons result rest induction =>
      rw [resultEvents, List.countP_cons_of_neg (by simp [notResult]), induction]

theorem tells_report (execution : Execution) (sql : List Char) (reply : Reply) :
    Tells execution sql reply (report execution sql reply) := by
  rw [report, mapIdx_result]
  cases failure : reply.failure with
  | none =>
      dsimp only
      by_cases something : 0 < reply.changes
      · rw [if_pos something]
        exact .changed failure something
      · rw [if_neg something]
        exact .unchanged failure (UInt64.le_zero_iff.mp (UInt64.not_lt.mp something))
  | some detail => exact .failed failure

theorem counts_of_tells {execution : Execution} {sql : List Char} {reply : Reply}
    {events : List Event} (told : Tells execution sql reply events) :
    events.countP Event.succeeds = (if reply.failure.isSome then 0 else 1) ∧
      events.countP Event.fails = if reply.failure.isSome then 1 else 0 := by
  have succeed := countP_resultEvents Event.succeeds (fun _ _ _ => rfl) execution 1
    reply.resultSets
  have fail := countP_resultEvents Event.fails (fun _ _ _ => rfl) execution 1
    reply.resultSets
  cases told with
  | unchanged replied _ | changed replied _ | failed replied =>
      rw [replied, List.cons_append, List.countP_cons_of_neg (by simp [Event.succeeds]),
        List.countP_cons_of_neg (by simp [Event.fails]), List.countP_append,
        List.countP_append, succeed, fail]
      exact ⟨rfl, rfl⟩

theorem execute_tells (database : Database σ) (cancellation : Cancellation) (run : Run σ)
    (execution : Execution) (sql : List Char) :
    ∃ reply events,
      database.execute run.database sql =
        (reply, (run.execute database cancellation execution sql).1.database) ∧
      Tells execution sql reply events ∧
      Accounts events run (run.execute database cancellation execution sql).1 := by
  rcases replied : database.execute run.database sql with ⟨reply, state⟩
  have tells := tells_report execution sql reply
  have counts := counts_of_tells tells
  rcases tellAll_fields cancellation { run with database := state }
    (report execution sql reply) with ⟨told, executed, failed, unchanged⟩
  refine ⟨reply, report execution sql reply, ?_, tells, ?_⟩
  · rw [execute, replied]
    dsimp only
    split <;> rw [unchanged]
  · rw [execute, replied]
    dsimp only
    cases failure : reply.failure with
    | none =>
        rw [failure] at counts
        refine ⟨told, ?_, ?_⟩
        · rw [counts.1]
          exact congrArg (· + 1) executed
        · rw [counts.2]
          exact failed
    | some detail =>
        rw [failure] at counts
        refine ⟨told, ?_, ?_⟩
        · rw [counts.1]
          exact executed
        · rw [counts.2]
          exact congrArg (· + 1) failed

/-- What is told while a batch is executed: so many of the executions that remain, all
of them if the run goes on, and at least one unless the run has been cancelled before. -/
structure Executes (database : Database σ) (sql : List Char) (number count remaining : Nat)
    (run : Run σ) (times : Nat) (events : List Event) (after : Run σ × Option Code) :
    Prop where
  repeats : Repeats database number count sql (count - remaining + 1) times run.database events
    after.1.database
  accounts : Accounts events run after.1
  bounded : times ≤ remaining
  all : after.2 = none → times = remaining
  atLeastOne : run.cancelled = false → 0 < remaining → 0 < times
  code : after.2 ≠ some .parseError

theorem executeTimes_executes (database : Database σ) (cancellation : Cancellation)
    (delivery : Delivery) (number count remaining : Nat) (few : remaining ≤ count)
    (run : Run σ) :
    ∃ times events, Executes database delivery.batch.text number count remaining run times
      events (executeTimes database cancellation delivery number count remaining run) := by
  induction remaining generalizing run with
  | zero =>
      refine ⟨0, [], .done, .refl run, Nat.le_refl 0, fun _ => rfl, fun _ => id, ?_⟩
      rintro ⟨⟩
  | succ remaining induction =>
      rw [executeTimes]
      by_cases stopped : run.cancelled = true
      · rw [if_pos stopped]
        refine ⟨0, [], .done, ⟨rfl, rfl, rfl⟩, Nat.zero_le _, ?_, ?_, by simp⟩
        · rintro ⟨⟩
        · intro active
          rw [stopped] at active
          cases active
      · rw [if_neg stopped]
        have index : count - (remaining + 1) + 1 = count - remaining := by omega
        rcases execute_tells database cancellation run ⟨number, count - remaining, count⟩
          delivery.batch.text with ⟨reply, events, replied, told, accounts⟩
        rw [← index] at told
        rcases executed : run.execute database cancellation ⟨number, count - remaining, count⟩
          delivery.batch.text with ⟨next, failed⟩
        rw [executed] at replied accounts
        dsimp only at replied accounts ⊢
        split
        · refine ⟨1, events ++ [], .again replied told .done, accounts.trans (.refl next),
            Nat.succ_pos remaining, ?_, fun _ _ => Nat.one_pos, by simp⟩
          rintro ⟨⟩
        · rcases induction (Nat.le_of_succ_le few) next with ⟨times, following, behind⟩
          have repeats := behind.repeats
          rw [← index] at repeats
          refine ⟨times + 1, events ++ following, .again replied told repeats,
            accounts.trans behind.accounts, Nat.succ_le_succ behind.bounded, ?_,
            fun _ _ => Nat.succ_pos times, behind.code⟩
          intro goesOn
          rw [behind.all goesOn]

/-- What is told of one batch. If the run goes on, the trace goes on behind it, and
otherwise it stops in this batch. -/
theorem take_traces (database : Database σ) (cancellation : Cancellation) (number : Nat)
    (delivery : Delivery) {run : Run σ} (active : run.cancelled = false) :
    let after := take database cancellation number delivery run
    ∃ events, Accounts events run after.1 ∧
      (after.2 = none ∧ (∀ rest following final,
          Traces database (number + 1) rest after.1.database following final →
          Traces database number (delivery.batch :: rest) run.database (events ++ following)
            final) ∨
        ∃ code, after.2 = some code ∧ code ≠ .parseError ∧
          Traces database number [delivery.batch] run.database events after.1.database) := by
  rw [take]
  by_cases executable : delivery.batch.isExecutable = true
  · rw [if_pos executable]
    have positive : 0 < delivery.batch.count.toNat := by
      have isPositive := of_decide_eq_true executable
      omega
    rcases executeTimes_executes database cancellation delivery number
      delivery.batch.count.toNat delivery.batch.count.toNat (Nat.le_refl _) run with
      ⟨times, events, executes⟩
    have repeats := executes.repeats
    have code := executes.code
    rw [Nat.sub_self, Nat.zero_add] at repeats
    refine ⟨events, executes.accounts, ?_⟩
    dsimp only
    cases stopped : (executeTimes database cancellation delivery number
      delivery.batch.count.toNat delivery.batch.count.toNat run).2 with
    | none =>
        rw [executes.all stopped] at repeats
        exact .inl ⟨rfl, fun rest following final => .executed executable repeats⟩
    | some stop =>
        rw [stopped] at code
        refine .inr ⟨stop, rfl, fun equal => code (congrArg Option.some equal), ?_⟩
        rcases Nat.lt_or_eq_of_le executes.bounded with short | whole
        · exact .stopped (executes.atLeastOne active positive) short repeats
        · rw [whole] at repeats
          have traces : Traces database number [delivery.batch] run.database (events ++ []) _ :=
            .executed executable repeats .done
          rwa [List.append_nil] at traces
  · rw [if_neg executable]
    refine ⟨_, accounts_tell_message cancellation run .warning _, .inl ⟨rfl, ?_⟩⟩
    intro rest following final behind
    exact .skipped (Bool.eq_false_iff.mpr executable) behind

theorem runAll_traces (database : Database σ) (cancellation : Cancellation)
    (fault : Option Fault) (number : Nat) (deliveries : List Delivery) (run : Run σ) :
    let after := runAll database cancellation fault number deliveries run
    ∃ met events ending,
      met <+: deliveries.map (·.batch) ∧
      Traces database number met run.database events after.1.database ∧
      Concludes fault after.2 ending ∧ Accounts (events ++ ending) run after.1 := by
  induction deliveries generalizing number run with
  | nil =>
      refine ⟨[], [], ?_⟩
      unfold runAll
      by_cases stopped : run.cancelled = true
      · rw [if_pos stopped]
        exact ⟨[], List.nil_prefix, .done, .silent (by simp), ⟨rfl, rfl, rfl⟩⟩
      · rw [if_neg stopped]
        cases fault with
        | none => exact ⟨[], List.nil_prefix, .done, .silent (by simp), .refl run⟩
        | some fault =>
            exact ⟨_, List.nil_prefix, .done, .unreadable rfl, ⟨rfl, rfl, rfl⟩⟩
  | cons delivery rest induction =>
      by_cases stopped : run.cancelled = true
      · rw [runAll, if_pos stopped]
        exact ⟨[], [], [], List.nil_prefix, .done, .silent (by simp), ⟨rfl, rfl, rfl⟩⟩
      · have active := Bool.eq_false_iff.mpr stopped
        rw [runAll_cons database cancellation fault number delivery rest active]
        rcases take_traces database cancellation number delivery active with
          ⟨events, accounts, ways⟩
        rcases taken : take database cancellation number delivery run with ⟨next, code⟩
        rw [taken] at accounts ways
        dsimp only at accounts ways ⊢
        rcases ways with ⟨rfl, onward⟩ | ⟨code, rfl, read, traces⟩
        · rcases induction (number + 1) next with
            ⟨met, following, ending, isPrefix, traces, concludes, behind⟩
          refine ⟨delivery.batch :: met, events ++ following, ending, ?_,
            onward met following _ traces, concludes, ?_⟩
          · exact List.cons_prefix_cons.mpr ⟨rfl, isPrefix⟩
          · rw [List.append_assoc]
            exact accounts.trans behind
        · refine ⟨[delivery.batch], events, [], ?_, traces, .silent read, ?_⟩
          · exact List.cons_prefix_cons.mpr ⟨rfl, List.nil_prefix⟩
          · rw [List.append_nil]
            exact accounts

end Run

/-- The events of a run are the trace of the batches that it has met, which are the first
ones of the script, and behind them the fault of the script if that is how the run has
ended. The run counts the ends of its executions, and leaves the database as the
executions in the trace do. -/
theorem runScript_traces {σ : Type} (database : Database σ) (state : σ)
    (cancellation : Cancellation) (options : Options) (script : List Char) :
    let parsed := parseScript script options
    let (outcome, final) := runScript database state cancellation options script
    ∃ met events ending,
      met <+: parsed.batches ∧ Traces database 1 met state events final ∧
      Concludes parsed.fault outcome.code ending ∧ outcome.events = events ++ ending ∧
      outcome.executed = outcome.events.countP Event.succeeds ∧
      outcome.failed = outcome.events.countP Event.fails := by
  intro parsed
  rcases Run.runAll_traces database cancellation parsed.fault 1 parsed.deliveries
    (.start state cancellation.before) with
    ⟨met, events, ending, isPrefix, traces, concludes, accounts⟩
  have told : (Run.runAll database cancellation parsed.fault 1 parsed.deliveries
      (.start state cancellation.before)).1.events.reverse = events ++ ending := by
    rw [accounts.told]
    exact (congrArg List.reverse (List.append_nil _)).trans (List.reverse_reverse _)
  refine ⟨met, events, ending, isPrefix, traces, concludes, told, ?_, ?_⟩
  · refine accounts.executed.trans ((Nat.zero_add _).trans ?_)
    exact congrArg (List.countP Event.succeeds) told.symm
  · refine accounts.failed.trans ((Nat.zero_add _).trans ?_)
    exact congrArg (List.countP Event.fails) told.symm

end Batchwise
