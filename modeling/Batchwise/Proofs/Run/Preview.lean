import Batchwise.Console.Preview
import Batchwise.Proofs.Run.Interleaving

namespace Batchwise

/-! A preview shows what a run will do. A run tells of each batch that it meets: when
it starts to execute it, each time anew, or when it skips it. A preview writes the batches
to one stream and the fault of the script to the other one. -/

namespace Event

def opens : Event → Bool
  | started .. | message .warning _ => true
  | _ => false

end Event

namespace Batch

/-- What a run tells when it meets a batch and is not stopped in it. -/
def openings (number : Nat) (batch : Batch) : List Event :=
  if batch.isExecutable then
    (List.range' 1 batch.count.toNat).map fun index =>
      .started ⟨number, index, batch.count.toNat⟩ batch.text
  else [.message .warning (skippedMessage number batch.count)]

theorem length_openings (number : Nat) {batch : Batch} (executable : batch.isExecutable = true) :
    (batch.openings number).length = batch.count.toNat := by
  rw [openings, if_pos executable, List.length_map, List.length_range']

end Batch

def openings (number : Nat) : List Batch → List Event
  | [] => []
  | batch :: rest => batch.openings number ++ openings (number + 1) rest

namespace Run

variable {σ : Type}

def opened (run : Run σ) : List Event :=
  (run.events.filter Event.opens).reverse

@[simp] theorem cancelled_tell_never (run : Run σ) (event : Event) :
    (run.tell .never event).cancelled = run.cancelled :=
  Bool.or_false _

theorem opened_tell (cancellation : Cancellation) (run : Run σ) (event : Event) :
    (run.tell cancellation event).opened = run.opened ++ [event].filter Event.opens := by
  simp only [opened, tell]
  cases opens : event.opens with
  | true => simp [opens]
  | false => simp [opens]

theorem opened_tellAll (cancellation : Cancellation) (run : Run σ) (events : List Event) :
    (run.tellAll cancellation events).opened = run.opened ++ events.filter Event.opens := by
  induction events generalizing run with
  | nil => exact (List.append_nil _).symm
  | cons event rest induction =>
    rw [tellAll, List.foldl_cons, ← tellAll, induction, opened_tell, List.append_assoc,
      ← List.filter_append]
    rfl

theorem cancelled_tellAll_never (run : Run σ) (events : List Event) :
    (run.tellAll .never events).cancelled = run.cancelled := by
  induction events generalizing run with
  | nil => rfl
  | cons event rest induction =>
    rw [tellAll, List.foldl_cons, ← tellAll, induction, cancelled_tell_never]

theorem opens_report (execution : Execution) (sql : List Char) (reply : Reply) :
    (report execution sql reply).filter Event.opens = [.started execution sql] := by
  have results : (reply.resultSets.mapIdx fun index result =>
      Event.result execution (index + 1) result).filter Event.opens = [] := by
    rw [List.filter_eq_nil_iff]
    intro event member
    rcases List.mem_mapIdx.mp member with ⟨index, bound, rfl⟩
    exact Bool.false_ne_true
  rw [report]
  dsimp only
  rw [List.cons_append, List.filter_cons_of_pos rfl, List.filter_append, results, List.nil_append]
  congr 1
  cases reply.failure with
  | none =>
    dsimp only
    split <;> rfl
  | some detail => rfl

theorem opened_execute (database : Database σ) (cancellation : Cancellation) (run : Run σ)
    (execution : Execution) (sql : List Char) :
    (run.execute database cancellation execution sql).1.opened =
      run.opened ++ [.started execution sql] := by
  have told := opened_tellAll cancellation
    { run with database := (database.execute run.database sql).2 }
    (report execution sql (database.execute run.database sql).1)
  rw [opens_report] at told
  rw [execute]
  dsimp only
  split <;> exact told

theorem cancelled_execute_never (database : Database σ) (run : Run σ)
    (execution : Execution) (sql : List Char) :
    (run.execute database .never execution sql).1.cancelled = run.cancelled := by
  have told := cancelled_tellAll_never
    { run with database := (database.execute run.database sql).2 }
    (report execution sql (database.execute run.database sql).1)
  rw [execute]
  dsimp only
  split <;> exact told

/-- What a batch leads to in a run that nobody cancels. Either the run tells all of
`events` and goes on, or it tells only the first ones and stops. -/
def Opens (events : List Event) (run : Run σ) (after : Run σ × Option Code) : Prop :=
  after.1.cancelled = false ∧
    (after.2 = none ∧ after.1.opened = run.opened ++ events ∨
      after.2 = some .batchFailed ∧ ∃ times, 0 < times ∧ times ≤ events.length ∧
        after.1.opened = run.opened ++ events.take times)

theorem Opens.behind {first rest : List Event} {run next : Run σ}
    {after : Run σ × Option Code} (told : next.opened = run.opened ++ first)
    (opens : Opens rest next after) : Opens (first ++ rest) run after := by
  rcases opens with ⟨active, ⟨goesOn, opened⟩ | ⟨fails, times, positive, bounded, opened⟩⟩
  · refine ⟨active, .inl ⟨goesOn, ?_⟩⟩
    rw [opened, told, List.append_assoc]
  · refine ⟨active, .inr ⟨fails, first.length + times, Nat.add_pos_right _ positive, ?_, ?_⟩⟩
    · rw [List.length_append]
      exact Nat.add_le_add_left bounded _
    · rw [opened, told, List.append_assoc, List.take_length_add_append]

theorem executeTimes_opens (database : Database σ) (delivery : Delivery)
    (number count remaining : Nat) (few : remaining ≤ count) {run : Run σ}
    (active : run.cancelled = false) :
    Opens ((List.range' (count - remaining + 1) remaining).map fun index =>
        .started ⟨number, index, count⟩ delivery.batch.text) run
      (executeTimes database .never delivery number count remaining run) := by
  induction remaining generalizing run with
  | zero => exact ⟨active, .inl ⟨rfl, (List.append_nil _).symm⟩⟩
  | succ remaining induction =>
    have index : count - (remaining + 1) + 1 = count - remaining := by omega
    rw [executeTimes, active, if_neg Bool.false_ne_true, index, List.range'_succ, List.map_cons]
    have opened := opened_execute database .never run ⟨number, count - remaining, count⟩
      delivery.batch.text
    have onward := cancelled_execute_never database run ⟨number, count - remaining, count⟩
      delivery.batch.text
    rw [active] at onward
    rcases executed : run.execute database .never ⟨number, count - remaining, count⟩
      delivery.batch.text with ⟨next, failed⟩
    rw [executed] at opened onward
    dsimp only at opened onward ⊢
    split
    · exact ⟨onward, .inr ⟨rfl, 1, Nat.one_pos, Nat.succ_pos _, opened⟩⟩
    · exact (induction (Nat.le_of_succ_le few) onward).behind opened

theorem take_opens (database : Database σ) (number : Nat) (delivery : Delivery) {run : Run σ}
    (active : run.cancelled = false) :
    Opens (delivery.batch.openings number) run
      (take database .never number delivery run) := by
  rw [take, Batch.openings]
  split
  · have whole := executeTimes_opens database delivery number delivery.batch.count.toNat
      delivery.batch.count.toNat (Nat.le_refl _) active
    rwa [Nat.sub_self] at whole
  · refine ⟨(cancelled_tell_never _ _).trans active, .inl ⟨rfl, ?_⟩⟩
    exact opened_tell _ _ _

theorem isExecutable_of_take {database : Database σ} {cancellation : Cancellation}
    {number : Nat} {delivery : Delivery} {run : Run σ} {code : Code}
    (stopped : (take database cancellation number delivery run).2 = some code) :
    delivery.batch.isExecutable = true := by
  rw [take] at stopped
  split at stopped
  · assumption
  · cases stopped

structure Completes (number : Nat) (batches : List Batch) (fault : Option Fault) (run : Run σ)
    (after : Run σ × Code) : Prop where
  opened : after.1.opened = run.opened ++ openings number batches
  code : after.2 = if fault.isSome then .parseError else .success
  error : ∀ found, fault = some found → after.1.error = some found.toError

structure StopsIn (number : Nat) (batches : List Batch) (run : Run σ)
    (met : List Batch) (last : Batch) (times : Nat) (after : Run σ × Code) : Prop where
  opened : after.1.opened =
    run.opened ++ (openings number met ++ (last.openings (number + met.length)).take times)
  code : after.2 = .batchFailed
  met : met ++ [last] <+: batches
  executable : last.isExecutable = true
  positive : 0 < times
  bounded : times ≤ last.count.toNat

theorem runAll_completes_or_stops (database : Database σ) (fault : Option Fault)
    (number : Nat) (deliveries : List Delivery) {run : Run σ}
    (active : run.cancelled = false) :
    Completes number (deliveries.map (·.batch)) fault run
        (runAll database .never fault number deliveries run) ∨
      ∃ met last times, StopsIn number (deliveries.map (·.batch)) run met last times
        (runAll database .never fault number deliveries run) := by
  induction deliveries generalizing number run with
  | nil =>
    left
    cases fault with
    | none =>
      rw [runAll, active, if_neg Bool.false_ne_true]
      exact ⟨(List.append_nil _).symm, rfl, by simp⟩
    | some fault =>
      rw [runAll, active, if_neg Bool.false_ne_true]
      refine ⟨opened_tell .never run (.message .error fault.toError.message), rfl, ?_⟩
      rintro found ⟨⟩
      rfl
  | cons delivery rest induction =>
    rw [runAll_cons database .never fault number delivery rest active]
    have opens := take_opens database number delivery active
    rcases taken : take database .never number delivery run with ⟨next, code⟩
    rw [taken] at opens
    rcases opens with ⟨onward, ⟨rfl, told⟩ | ⟨rfl, times, positive, bounded, told⟩⟩
    · dsimp only at onward told ⊢
      rcases induction (number + 1) onward with completes | ⟨met, last, times, stops⟩
      · refine .inl ⟨?_, completes.code, completes.error⟩
        rw [completes.opened, told, List.append_assoc]
        rfl
      · refine .inr ⟨delivery.batch :: met, last, times, ?_, stops.code, ?_,
          stops.executable, stops.positive, stops.bounded⟩
        · rw [stops.opened, told, List.length_cons, openings, Nat.add_right_comm]
          simp only [List.append_assoc, Nat.add_assoc]
        · exact List.cons_prefix_cons.mpr ⟨rfl, stops.met⟩
    · have executable := isExecutable_of_take (congrArg Prod.snd taken)
      rw [Batch.length_openings number executable] at bounded
      exact .inr ⟨[], delivery.batch, times, told, rfl,
        List.cons_prefix_cons.mpr ⟨rfl, List.nil_prefix⟩, executable, positive, bounded⟩

theorem opens_finish (run : Run σ) (code : Code) :
    (run.finish code).events.filter Event.opens = run.opened :=
  List.filter_reverse

end Run

/-! ## What previews write -/

def shownBatches (colours : Bool) (batches : List Batch) : List Printed :=
  (batches.mapIdx fun index batch => batch.print colours (index + 1)).flatten

/-- The preview writes this to one stream and the fault to the other one, and nothing else. -/
structure Parsed.Previews (parsed : Parsed) (colours : Bool) (shown : List Printed)
    (report : Report) : Prop where
  output : report.printed.filter (·.stream = .output) = shown
  error : report.printed.filter (·.stream = .error) = parsed.fault.toList.map fun fault =>
    .errorLine (Style.boldRed.paint colours "Parse Error:".toList ++ [' '] ++
      fault.toError.message.toList)
  exitCode : report.exitCode =
    (if parsed.fault.isSome then Code.parseError else Code.success).exitCode

def IsOutput (printed : List Printed) : Prop :=
  ∀ entry ∈ printed, entry.stream = .output

theorem IsOutput.append {first second : List Printed} (front : IsOutput first)
    (back : IsOutput second) : IsOutput (first ++ second) :=
  List.forall_mem_append.mpr ⟨front, back⟩

theorem IsOutput.filter {printed : List Printed} (isOutput : IsOutput printed) :
    printed.filter (·.stream = .output) = printed ∧ printed.filter (·.stream = .error) = [] := by
  constructor
  · rw [List.filter_eq_self]
    intro entry member
    exact decide_eq_true (isOutput entry member)
  · rw [List.filter_eq_nil_iff]
    intro entry member
    rw [isOutput entry member]
    decide

theorem isOutput_line (text : List Char) : IsOutput [.line text] := by
  intro entry member
  rw [List.mem_singleton.mp member]
  rfl

theorem Batch.isOutput_print (colours : Bool) (number : Nat) (batch : Batch) :
    IsOutput (batch.print colours number) := by
  intro entry member
  simp only [Batch.print, List.mem_append, List.mem_cons, List.mem_map] at member
  rcases member with ((rfl | ⟨text, -, rfl⟩) | skipped) | rfl | nothing
  · rfl
  · rfl
  · split at skipped
    · cases skipped
    · rw [List.mem_singleton.mp skipped]
      rfl
  · rfl
  · cases nothing

theorem isOutput_shownBatches (colours : Bool) (batches : List Batch) :
    IsOutput (shownBatches colours batches) := by
  intro entry member
  rcases List.mem_flatten.mp member with ⟨printed, isBatch, inPrinted⟩
  rcases List.mem_mapIdx.mp isBatch with ⟨index, bound, rfl⟩
  exact Batch.isOutput_print colours _ _ entry inPrinted

theorem isOutput_printHeading (colours : Bool) (mode : Mode) :
    IsOutput (printHeading colours mode) := by
  intro entry member
  simp only [printHeading, List.mem_cons, List.not_mem_nil, or_false] at member
  rcases member with rfl | rfl | rfl | rfl <;> rfl

theorem Context.isOutput_print (colours : Bool) (context : Context) :
    IsOutput (context.print colours) := by
  intro entry member
  simp only [Context.print, List.mem_append, List.mem_cons, List.not_mem_nil, or_false] at member
  rcases member with (rfl | listed) | rfl | rfl
  · rfl
  · split at listed
    · rw [List.mem_singleton.mp listed]
      rfl
    · rcases List.mem_map.mp listed with ⟨shown, -, rfl⟩
      rfl
  · rfl
  · rfl

namespace Parsed

theorem filter_printFault (parsed : Parsed) (colours : Bool) :
    (parsed.printFault colours).filter (·.stream = .output) = [] ∧
      (parsed.printFault colours).filter (·.stream = .error) =
        parsed.fault.toList.map fun fault =>
          .errorLine (Style.boldRed.paint colours "Parse Error:".toList ++ [' '] ++
            fault.toError.message.toList) := by
  rw [printFault]
  cases parsed.fault with
  | none => exact ⟨rfl, rfl⟩
  | some fault => exact ⟨rfl, rfl⟩

theorem previews_of_isOutput (parsed : Parsed) (colours : Bool) {front back : List Printed}
    (isOutput : IsOutput front) (isOutputToo : IsOutput back) :
    parsed.Previews colours (front ++ back)
      ⟨front ++ parsed.printFault colours ++ back, parsed.exitCode⟩ := by
  rcases isOutput.filter with ⟨own, silent⟩
  rcases isOutputToo.filter with ⟨ownToo, silentToo⟩
  rcases parsed.filter_printFault colours with ⟨noFault, fault⟩
  refine ⟨?_, ?_, rfl⟩
  · rw [List.filter_append, List.filter_append, own, ownToo, noFault, List.append_nil]
  · rw [List.filter_append, List.filter_append, silent, silentToo, fault, List.nil_append,
      List.append_nil]

end Parsed

theorem previews_showBatches_table (colours : Bool) (options : Options) (script : List Char) :
    let parsed := parseScript script options
    parsed.Previews colours
      (shownBatches colours parsed.batches ++
        [.line (Style.cyan.paint colours (toString parsed.batches.length).toList ++
          " batch(es)".toList)])
      (showBatches .table colours options script) := by
  intro parsed
  exact parsed.previews_of_isOutput colours (List.forall_mem_nil _)
    ((isOutput_shownBatches colours _).append (isOutput_line _))

theorem previews_showBatches_json (colours : Bool) (options : Options) (script : List Char) :
    let parsed := parseScript script options
    parsed.Previews colours [.line (Json.pretty 0 (.array (parsed.batches.map Batch.toJson)))]
      (showBatches .json colours options script) := by
  intro parsed
  exact parsed.previews_of_isOutput colours (List.forall_mem_nil _) (isOutput_line _)

theorem previews_explainScript (colours : Bool) (options : Options) (script : List Char) :
    let parsed := parseScript script options
    parsed.Previews colours
      (printHeading colours options.mode ++ shownBatches colours parsed.batches ++
        parsed.context.print colours)
      (explainScript colours options script) := by
  intro parsed
  exact parsed.previews_of_isOutput colours
    ((isOutput_printHeading colours _).append (isOutput_shownBatches colours _))
    (parsed.context.isOutput_print colours)

/-- A preview asks for batches until there are no more, and then for none, and writes them
and the fault of the script; all previews write the same ones. A run that nobody cancels
meets the same batches in order, and as often as the preview says, up to the execution at
which it fails. Unless it fails so, it ends with the code and the error of the preview. -/
theorem run_meets_previewed_batches {σ : Type} (database : Database σ) (state : σ)
    (options : Options) (script : List Char) (format : Format) (colours : Bool) :
    let parsed := parseScript script options
    let outcome := (runScript database state .never options script).1
    let opened := outcome.events.filter Event.opens
    (∀ times, (Reader.ofScript script (.ofOptions options)).answers times =
        parsed.answers.takeD times .finished) ∧
      (runInterleaved database state .never options script).1 = outcome ∧
      parsed.Previews colours
        (shownBatches colours parsed.batches ++
          [.line (Style.cyan.paint colours (toString parsed.batches.length).toList ++
            " batch(es)".toList)])
        (showBatches .table colours options script) ∧
      parsed.Previews colours [.line (Json.pretty 0 (.array (parsed.batches.map Batch.toJson)))]
        (showBatches .json colours options script) ∧
      parsed.Previews colours
        (printHeading colours options.mode ++ shownBatches colours parsed.batches ++
          parsed.context.print colours)
        (explainScript colours options script) ∧
      (opened = openings 1 parsed.batches ∧
          outcome.code = (if parsed.fault.isSome then .parseError else .success) ∧
          (∀ fault, parsed.fault = some fault → outcome.error = some fault.toError) ∧
          outcome.code.exitCode = (showBatches format colours options script).exitCode ∧
          outcome.code.exitCode = (explainScript colours options script).exitCode ∨
        outcome.code = .batchFailed ∧
          ∃ met last times, met ++ [last] <+: parsed.batches ∧ last.isExecutable = true ∧
            0 < times ∧ times ≤ last.count.toNat ∧
            opened = openings 1 met ++ (last.openings (met.length + 1)).take times) := by
  intro parsed outcome opened
  refine ⟨fun times => Reader.answers_eq_parse times _, ?_,
    previews_showBatches_table colours options script,
    previews_showBatches_json colours options script,
    previews_explainScript colours options script, ?_⟩
  · exact congrArg Prod.fst (runInterleaved_eq_runScript _ _ _ _ _)
  · have told : opened = _ := Run.opens_finish _ _
    rcases Run.runAll_completes_or_stops database parsed.fault 1 parsed.deliveries
      (Eq.refl (Run.start state false).cancelled) with completes | ⟨met, last, times, stops⟩
    · refine .inl ⟨told.trans completes.opened, completes.code, completes.error, ?_, ?_⟩
      · exact congrArg Code.exitCode completes.code
      · exact congrArg Code.exitCode completes.code
    · refine .inr ⟨stops.code, met, last, times, stops.met, stops.executable,
        stops.positive, stops.bounded, ?_⟩
      rw [Nat.add_comm]
      exact told.trans stops.opened

end Batchwise
