import Batchwise.Proofs.Run.Journal
import Batchwise.Proofs.Run.Preview

namespace Batchwise

/-! What a cancellation does to a run. A run looks at it between two entries of its
journal and never inside of one: the execution that goes on is told to its end, and
nothing is told behind it. -/

/-! ## The events of one entry -/

namespace Event

/-- The execution that the event is the start or the end of. -/
def boundary? : Event → Option Execution
  | started execution _ | ended execution _ => some execution
  | result .. | message .. => none

end Event

namespace Reply

def failureText? (reply : Reply) : Option String :=
  reply.failure.map fun detail => (ScriptError.execution detail).message

end Reply

/-- The event is neither the start nor the end of an execution, opens none, and tells no
other error than this one. -/
structure Event.Inside (failure : Option String) (event : Event) : Prop where
  boundary? : event.boundary? = none
  opens : event.opens = false
  ownError : ∀ text, event = .message .error text → failure = some text

theorem inside_of_mem_resultEvents {failure : Option String} {execution : Execution}
    {number : Nat} {results : List ResultSet} {event : Event}
    (member : event ∈ resultEvents execution number results) : event.Inside failure := by
  induction results generalizing number with
  | nil => cases member
  | cons result rest induction =>
      rcases List.mem_cons.mp member with rfl | behind
      · exact ⟨rfl, rfl, by simp⟩
      · exact induction behind

theorem Tells.between {execution : Execution} {sql : List Char} {reply : Reply}
    {events : List Event} (told : Tells execution sql reply events) :
    ∃ between, events =
        .started execution sql :: between ++ [.ended execution reply.failureText?] ∧
      ∀ event ∈ between, event.Inside reply.failureText? := by
  cases told with
  | unchanged succeeded =>
      rw [Reply.failureText?, succeeded]
      exact ⟨_, rfl, fun event => inside_of_mem_resultEvents⟩
  | changed succeeded =>
      rw [Reply.failureText?, succeeded]
      refine ⟨resultEvents execution 1 reply.resultSets ++
        [.message .info (affectedMessage reply.changes)], by simp, ?_⟩
      intro event member
      rcases List.mem_append.mp member with isResult | isMessage
      · exact inside_of_mem_resultEvents isResult
      · rw [List.mem_singleton.mp isMessage]
        exact ⟨rfl, rfl, by simp⟩
  | @failed detail failure =>
      rw [Reply.failureText?, failure]
      refine ⟨resultEvents execution 1 reply.resultSets ++
        [.message .error (ScriptError.execution detail).message], by simp, ?_⟩
      intro event member
      rcases List.mem_append.mp member with isResult | isMessage
      · exact inside_of_mem_resultEvents isResult
      · rw [List.mem_singleton.mp isMessage]
        exact ⟨rfl, rfl, by simp⟩

namespace Run

structure Concluding (execution : Execution) (event : Event) (back : List Event)
    (failure : Option String) : Prop where
  ends : (event :: back).getLast? = some (.ended execution failure)
  opensNothing : ∀ other ∈ back, other.opens = false
  ownError : ∀ text, .message .error text ∈ back → failure = some text

theorem concluding_of_report {execution : Execution} {sql : List Char} {reply : Reply}
    {lead back : List Event} {event : Event}
    (split : report execution sql reply = lead ++ event :: back) :
    Concluding execution event back reply.failureText? ∧
      ∀ other, event.boundary? = some other → other = execution := by
  rcases (tells_report execution sql reply).between with ⟨between, equal, inside⟩
  rw [equal] at split
  -- Everything behind `event` is behind the start of the execution.
  have behindStart : ∀ other ∈ back,
      other ∈ between ∨ other = .ended execution reply.failureText? := by
    intro other member
    have behind : back <:+ between ++ [.ended execution reply.failureText?] := by
      cases lead with
      | nil =>
          rcases List.cons.inj split with ⟨-, same⟩
          rw [← same]
          exact List.suffix_rfl
      | cons first lead =>
          rcases List.cons.inj split with ⟨-, same⟩
          rw [List.append_eq] at same
          rw [same]
          exact (List.suffix_cons event back).trans (List.suffix_append lead _)
    simpa using behind.subset member
  have isInReport : event ∈ lead ++ event :: back := by simp
  rw [← split] at isInReport
  refine ⟨⟨?_, ?_, ?_⟩, ?_⟩
  · have last := congrArg List.getLast? split
    rw [List.getLast?_concat, List.getLast?_append_of_ne_nil _ (List.cons_ne_nil _ _)] at last
    exact last.symm
  · intro other member
    rcases behindStart other member with isBetween | rfl
    · exact (inside other isBetween).opens
    · rfl
  · intro text member
    rcases behindStart _ member with isBetween | isEnd
    · exact (inside _ isBetween).ownError text rfl
    · cases isEnd
  · intro other bounds
    simp only [List.cons_append, List.mem_cons, List.mem_append, List.not_mem_nil,
      or_false] at isInReport
    rcases isInReport with rfl | isBetween | rfl
    · exact (Option.some.inj bounds).symm
    · rw [(inside event isBetween).boundary?] at bounds
      cases bounds
    · exact (Option.some.inj bounds).symm

end Run

/-! ## Where an event stands in a journal -/

def StandsIn (entries : List Entry) (ending front : List Event) (event : Event)
    (back : List Event) : Prop :=
  ∃ before entry after lead tail, entries = before ++ entry :: after ∧
    front = eventsOf before ++ lead ∧ entry.events = lead ++ event :: tail ∧
    back = tail ++ (eventsOf after ++ ending)

theorem standsIn_of_split {entries : List Entry} {ending front back : List Event}
    {event : Event} (split : eventsOf entries ++ ending = front ++ event :: back)
    (other : event ∉ ending) : StandsIn entries ending front event back := by
  induction entries generalizing front with
  | nil =>
      rw [eventsOf_nil, List.nil_append] at split
      rw [split] at other
      simp at other
  | cons entry rest induction =>
      have later : ∀ lead, eventsOf rest ++ ending = lead ++ event :: back →
          front = entry.events ++ lead → StandsIn (entry :: rest) ending front event back := by
        intro lead following equal
        rcases induction following with ⟨before, found, after, inner, tail, rfl, rfl, own, rfl⟩
        refine ⟨entry :: before, found, after, inner, tail, rfl, ?_, own, rfl⟩
        rw [equal, ← List.append_assoc]
        rfl
      have whole : entry.events ++ (eventsOf rest ++ ending) = front ++ event :: back := by
        rw [← split, ← List.append_assoc]
        rfl
      rcases List.append_eq_append_iff.mp whole with ⟨lead, equal, following⟩ |
        ⟨own, equal, following⟩
      · exact later lead following equal
      · cases own with
        | nil =>
            rw [List.append_nil] at equal
            exact later [] following.symm (by rw [equal, List.append_nil])
        | cons first tail =>
            rcases List.cons.inj following with ⟨rfl, rfl⟩
            exact ⟨[], entry, rest, front, tail, rfl, rfl, equal, rfl⟩

section Journal

variable {σ : Type}

theorem mem_tasks_of_mem_journal {database : Database σ} {state : σ} {left : List Task}
    {execution : Execution} {delivery : Delivery} {reply : Reply}
    (member : .executed execution delivery reply ∈ journal database state left) :
    .execute execution delivery ∈ left := by
  induction left generalizing state with
  | nil => cases member
  | cons task rest induction =>
      cases task with
      | skip number count =>
          rcases List.mem_cons.mp member with equal | behind
          · cases equal
          · exact List.mem_cons_of_mem _ (induction behind)
      | execute own other =>
          rcases List.mem_cons.mp member with equal | behind
          · cases equal
            exact List.mem_cons_self
          · exact List.mem_cons_of_mem _ (induction behind)

theorem getElem?_of_mem_tasks {number : Nat} {deliveries : List Delivery}
    {execution : Execution} {delivery : Delivery}
    (member : .execute execution delivery ∈ tasks number deliveries) :
    number ≤ execution.batch ∧ deliveries[execution.batch - number]? = some delivery := by
  induction deliveries generalizing number with
  | nil => cases member
  | cons first rest induction =>
      rcases List.mem_append.mp member with own | behind
      · rw [Delivery.tasks] at own
        split at own
        · rcases List.mem_map.mp own with ⟨index, -, equal⟩
          cases equal
          simp
        · cases List.mem_singleton.mp own
      · rcases induction behind with ⟨bound, found⟩
        have index : execution.batch - number = execution.batch - (number + 1) + 1 := by omega
        refine ⟨by omega, ?_⟩
        rw [index, List.getElem?_cons_succ]
        exact found

theorem getElem?_of_mem_journal {database : Database σ} {state : σ}
    {deliveries : List Delivery} {execution : Execution} {delivery : Delivery} {reply : Reply}
    (member : .executed execution delivery reply ∈
      journal database state (tasks 1 deliveries)) :
    deliveries[execution.batch - 1]? = some delivery :=
  (getElem?_of_mem_tasks (mem_tasks_of_mem_journal member)).2

end Journal

namespace Run

theorem Halts.boundary?_of_mem {cancellation : Cancellation} {fault : Option Fault}
    {done left : List Entry} {code : Code} {error : Option ScriptError} {ending : List Event}
    (halts : Halts cancellation fault done left code error ending) {event : Event}
    (member : event ∈ ending) : event.boundary? = none := by
  cases halts with
  | failed | cancelled | finished => cases member
  | unreadable =>
      rw [List.mem_singleton.mp member]
      rfl

theorem Halts.reached_of_userCancelled {cancellation : Cancellation} {fault : Option Fault}
    {done left : List Entry} {error : Option ScriptError} {ending : List Event}
    (halts : Halts cancellation fault done left .userCancelled error ending) :
    cancellation.Reached (eventsOf done) := by
  cases halts with
  | cancelled reached => exact reached

/-- Behind an execution that a cancellation has met, a run does nothing more. It ends as a
cancelled one unless the execution stops it. -/
theorem Follows.verdict_of_reached {σ : Type} {cancellation : Cancellation}
    {fault : Option Fault} {whole before after left : List Entry} {execution : Execution}
    {delivery : Delivery} {reply : Reply} {ending : List Event} {run : Run σ × Code}
    (follows : Follows cancellation fault whole
      (before ++ .executed execution delivery reply :: after) left ending run)
    (reached : cancellation.Reached
      (eventsOf (before ++ [.executed execution delivery reply]))) :
    after = [] ∧ ending = [] ∧
      if reply.failureText?.isSome ∧ delivery.continueOnError = false then
        run.2 = .batchFailed ∧ run.1.error.map ScriptError.message = reply.failureText?
      else run.2 = .userCancelled ∧ run.1.error = some .cancelled := by
  have decides : (Entry.executed execution delivery reply).stops = true ↔
      reply.failureText?.isSome ∧ delivery.continueOnError = false := by
    simp [Entry.stops, Reply.failureText?]
  by_cases stops : (Entry.executed execution delivery reply).stops = true
  · rcases follows.last_of_stops stops with ⟨nothing, silent, code, detail, failure, error⟩
    have failed : reply.failure = some detail := failure
    rw [if_pos (decides.mp stops), error, Reply.failureText?, failed]
    exact ⟨nothing, silent, code, rfl⟩
  · rw [if_neg (mt decides.mpr stops)]
    exact follows.last_of_reached (Bool.eq_false_iff.mpr stops) reached

end Run

/-- A run that is cancelled before it starts tells nothing. One that is first cancelled
at the start or at the end of an execution tells that execution to its end and nothing
more, and is a cancelled run whatever is left of the script, unless the execution fails
and its policy is to stop. What is told of that end is what the database has replied. No
other run ends as a cancelled one. -/
theorem cancellation_stops_run {σ : Type} (database : Database σ) (state : σ)
    (cancellation : Cancellation) (options : Options) (script : List Char) :
    let parsed := parseScript script options
    let outcome := (runScript database state cancellation options script).1
    (runInterleaved database state cancellation options script).1 = outcome ∧
      (cancellation.before = true → outcome = ⟨.userCancelled, 0, 0, some .cancelled, []⟩) ∧
      (∀ front event back execution, outcome.events = front ++ event :: back →
        ¬ cancellation.Reached front → cancellation.Reached (front ++ [event]) →
        event.boundary? = some execution →
        ∃ delivery reply, parsed.deliveries[execution.batch - 1]? = some delivery ∧
          .executed execution delivery reply ∈
            journal database state (tasks 1 parsed.deliveries) ∧
          (event :: back).getLast? = some (.ended execution reply.failureText?) ∧
          (∀ other ∈ back, other.opens = false) ∧
          (∀ text, .message .error text ∈ back → reply.failureText? = some text) ∧
          if reply.failureText?.isSome ∧ delivery.continueOnError = false then
            outcome.code = .batchFailed ∧
              outcome.error.map ScriptError.message = reply.failureText?
          else outcome.code = .userCancelled ∧ outcome.error = some .cancelled) ∧
      (outcome.code = .userCancelled → cancellation.Reached outcome.events) := by
  intro parsed outcome
  rcases runScript_follows database state cancellation options script with
    ⟨done, left, ending, follows⟩
  have told : outcome.events = eventsOf done ++ ending := follows.told
  refine ⟨congrArg Prod.fst (runInterleaved_eq_runScript _ _ _ _ _), ?_, ?_, ?_⟩
  · intro before
    have unstarted := Run.work_of_cancelled database cancellation parsed.fault
      (tasks 1 parsed.deliveries)
      (Eq.trans (Eq.refl (Run.start state cancellation.before).cancelled) before)
    rw [← Run.runAll_eq_work] at unstarted
    exact congrArg (fun after => after.1.finish after.2) unstarted
  · intro front event back execution split notYet reached bounds
    have notEnding : event ∉ ending := by
      intro member
      rw [follows.halts.boundary?_of_mem member] at bounds
      cases bounds
    rw [told] at split
    rcases standsIn_of_split split notEnding with
      ⟨before, entry, after, lead, tail, rfl, rfl, own, rfl⟩
    have reachedHere : cancellation.Reached (eventsOf (before ++ [entry])) := by
      apply reached.mono
      rw [eventsOf_append, eventsOf_singleton, own, List.append_assoc]
      exact ⟨tail, by simp⟩
    cases entry with
    | skipped number count =>
        have isWarning : event ∈ lead ++ event :: tail := by simp
        rw [← own] at isWarning
        cases List.mem_singleton.mp isWarning
        cases bounds
    | executed other delivery reply =>
        rcases Run.concluding_of_report own with ⟨concluding, same⟩
        cases same execution bounds
        have member : .executed execution delivery reply ∈
            journal database state (tasks 1 parsed.deliveries) := by
          rw [follows.split]
          simp
        rcases follows.verdict_of_reached reachedHere with ⟨rfl, rfl, verdict⟩
        rw [eventsOf_nil, List.append_nil, List.append_nil]
        exact ⟨delivery, reply, getElem?_of_mem_journal member, member, concluding.ends,
          concluding.opensNothing, concluding.ownError, verdict⟩
  · intro cancelled
    have halts := follows.halts
    have code : (Run.runAll database cancellation parsed.fault 1 parsed.deliveries
      (.start state cancellation.before)).2 = .userCancelled := cancelled
    rw [code] at halts
    rw [told]
    exact halts.reached_of_userCancelled.mono (List.prefix_append _ _)

/-- A run that is cancelled while it tells the start of its first repetition: the second
one and the malformed line are left. -/
theorem cancellation_stops_run_in_first_repetition :
    let database : Database Unit := ⟨fun state _ => (⟨[], none⟩, state)⟩
    let cancellation : Cancellation := ⟨false, fun call count => call = .started && count = 1⟩
    let outcome := (runScript database () cancellation {} "A\nGO 2\n:X".toList).1
    let execution : Execution := ⟨1, 1, 2⟩
    outcome.events = [.started execution ['A', '\n'], .ended execution none] ∧
      ¬ cancellation.Reached [] ∧
      cancellation.Reached [.started execution ['A', '\n']] ∧
      outcome.code = .userCancelled ∧ outcome.error = some .cancelled := by
  intro database cancellation outcome execution
  have split : outcome.events =
      [.started execution ['A', '\n'], .ended execution none] := by decide +kernel
  have notYet : ¬ cancellation.Reached [] := by
    rw [Cancellation.reached_nil]
    exact Bool.false_ne_true
  have reached : cancellation.Reached [.started execution ['A', '\n']] :=
    .inr ⟨[], _, List.prefix_rfl, rfl⟩
  rcases (cancellation_stops_run database () cancellation {} "A\nGO 2\n:X".toList).2.2.1
    [] _ _ execution split notYet reached rfl with ⟨delivery, reply, -, -, ends, -, -, stops⟩
  have succeeded : none = reply.failureText? := (Event.ended.inj (Option.some.inj ends)).2
  rw [← succeeded, if_neg (by simp)] at stops
  exact ⟨split, notYet, reached, stops⟩

end Batchwise
