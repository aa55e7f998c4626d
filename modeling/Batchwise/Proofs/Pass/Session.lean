import Batchwise.Pass.Reader
import Mathlib.Data.List.Basic

namespace Batchwise

/-! A reader under any order of operations. The two ways to ask share one pass, and whoever
cancels reaches both. All that the caller can tell apart is said by the answers: `next` has
stopped when it has answered something else than a batch, and the open batch is given up
when a request is told of the cancellation. -/

inductive Operation where
  | next
  | nextBatch
  | cancel
  deriving DecidableEq, Repr

def Pass.abandon (pass : Pass) : Pass :=
  { pass with progress := pass.progress.clear }

@[simp] theorem Pass.abandon_abandon (pass : Pass) : pass.abandon.abandon = pass.abandon := rfl

namespace Reader

def perform (reader : Reader) : Operation → Option Answer × Reader
  | .next => (some reader.next.1, reader.next.2)
  | .nextBatch => (some reader.nextBatch.1, reader.nextBatch.2)
  | .cancel => (none, reader.cancel)

def after (reader : Reader) : List Operation → Reader
  | [] => reader
  | operation :: rest => (reader.perform operation).2.after rest

def told (reader : Reader) : List Operation → List (Operation × Option Answer)
  | [] => []
  | operation :: rest =>
    (operation, (reader.perform operation).1) :: (reader.perform operation).2.told rest

def answersTo (operation : Operation) (told : List (Operation × Option Answer)) :
    List Answer :=
  told.filterMap fun entry => if entry.1 = operation then entry.2 else none

def resume (reader : Reader) : Reader :=
  { reader with stopped := false }

variable {reader : Reader}

/-! ## One operation -/

theorem next_of_stopped (stopped : reader.stopped = true) : reader.next = (.finished, reader) := by
  rw [next, if_pos stopped]

theorem next_of_going (going : reader.stopped = false) :
    reader.next =
      (reader.nextBatch.1, { reader.nextBatch.2 with stopped := !reader.nextBatch.1.isBatch }) := by
  rw [next, going]
  rfl

theorem nextBatch_of_cancelled (cancelled : reader.cancelled = true) :
    reader.nextBatch = (.cancelled, { reader with pass := reader.pass.abandon }) := by
  rw [nextBatch, cancelled]
  rfl

theorem answersTo_told_cons (operation first : Operation) (rest : List Operation) :
    answersTo operation (reader.told (first :: rest)) =
      (if first = operation then (reader.perform first).1 else none).toList ++
        answersTo operation ((reader.perform first).2.told rest) := by
  rw [told, answersTo, List.filterMap_cons]
  cases (if first = operation then (reader.perform first).1 else none) <;> rfl

/-! ## What the flags mean -/

theorem stopped_after_iff (operations : List Operation) :
    (reader.after operations).stopped = true ↔
      reader.stopped = true ∨
        ∃ answer ∈ answersTo .next (reader.told operations), answer.isBatch = false := by
  induction operations generalizing reader with
  | nil => simp [after, told, answersTo]
  | cons operation rest induction =>
      rw [after, induction, answersTo_told_cons]
      cases operation with
      | next =>
          cases stopped : reader.stopped with
          | true => simp [perform, next_of_stopped stopped, stopped]
          | false => simp [perform, next_of_going stopped]
      | nextBatch => simp [perform, nextBatch]
      | cancel => simp [perform, cancel]

theorem cancelled_after_iff (operations : List Operation) :
    (reader.after operations).cancelled = true ↔
      reader.cancelled = true ∨ .cancel ∈ operations := by
  induction operations generalizing reader with
  | nil => simp [after]
  | cons operation rest induction =>
      rw [after, induction]
      cases operation with
      | next =>
          cases stopped : reader.stopped with
          | true => simp [perform, next_of_stopped stopped]
          | false => simp [perform, next_of_going stopped, nextBatch]
      | nextBatch => simp [perform, nextBatch]
      | cancel => simp [perform, cancel]

/-! ## Behind the end of the iteration -/

section Stopped

variable (stopped : reader.stopped = true) (operations : List Operation)

include stopped

theorem answers_next_of_stopped :
    answersTo .next (reader.told operations) =
      List.replicate (operations.count .next) .finished := by
  induction operations generalizing reader with
  | nil => rfl
  | cons operation rest induction =>
      rw [answersTo_told_cons]
      cases operation with
      | next =>
          have unchanged : reader.perform .next = (some .finished, reader) := by
            rw [perform, next_of_stopped stopped]
          rw [unchanged, induction stopped, List.count_cons_self]
          rfl
      | nextBatch => exact induction stopped
      | cancel => exact induction stopped

/-- What `next` is asked makes no difference to what `nextBatch` is answered. -/
theorem answers_nextBatch_of_stopped :
    answersTo .nextBatch (reader.told operations) =
        answersTo .nextBatch (reader.resume.told (operations.filter (· ≠ .next))) ∧
      (reader.after operations).pass =
        (reader.resume.after (operations.filter (· ≠ .next))).pass := by
  induction operations generalizing reader with
  | nil => exact ⟨rfl, rfl⟩
  | cons operation rest induction =>
      rw [answersTo_told_cons, after]
      cases operation with
      | next =>
          have unchanged : reader.perform .next = (some .finished, reader) := by
            rw [perform, next_of_stopped stopped]
          rw [unchanged]
          exact induction stopped
      | nextBatch =>
          have behind := @induction reader.nextBatch.2 stopped
          constructor
          · exact congrArg (reader.nextBatch.1 :: ·) behind.1
          · exact behind.2
      | cancel =>
          have behind := @induction reader.cancel stopped
          exact behind

end Stopped

/-! ## Behind a cancellation -/

section Cancelled

variable (cancelled : reader.cancelled = true) (operations : List Operation)

include cancelled

theorem perform_of_cancelled (operation : Operation) :
    reader.perform operation = (none, reader) ∨
      reader.perform operation = (some .finished, reader) ∨
      ∃ stopped, reader.perform operation =
        (some .cancelled, ⟨reader.pass.abandon, true, stopped⟩) := by
  rcases reader with ⟨pass, flag, stopped⟩
  dsimp only at cancelled
  subst cancelled
  cases operation with
  | next =>
      cases stopped with
      | true => exact .inr (.inl rfl)
      | false => exact .inr (.inr ⟨true, rfl⟩)
  | nextBatch => exact .inr (.inr ⟨stopped, rfl⟩)
  | cancel => exact .inl rfl

theorem answers_nextBatch_of_cancelled :
    answersTo .nextBatch (reader.told operations) =
      List.replicate (operations.count .nextBatch) .cancelled := by
  induction operations generalizing reader with
  | nil => rfl
  | cons operation rest induction =>
      rw [answersTo_told_cons]
      cases operation with
      | next =>
          cases stopped : reader.stopped with
          | true =>
              rw [perform, next_of_stopped stopped]
              exact induction cancelled
          | false =>
              rw [perform, next_of_going stopped, nextBatch_of_cancelled cancelled]
              exact induction cancelled
      | nextBatch =>
          rw [perform, nextBatch_of_cancelled cancelled, List.count_cons_self]
          exact congrArg (Answer.cancelled :: ·) (induction cancelled)
      | cancel => exact induction rfl

theorem answers_next_of_cancelled :
    answersTo .next (reader.told operations) =
      (if reader.stopped then [] else [.cancelled]).takeD (operations.count .next) .finished := by
  induction operations generalizing reader with
  | nil => rfl
  | cons operation rest induction =>
      cases stopped : reader.stopped with
      | true =>
          rw [answers_next_of_stopped stopped, if_pos rfl, List.takeD_nil]
      | false =>
          rw [answersTo_told_cons]
          cases operation with
          | next =>
              rw [perform, next_of_going stopped, nextBatch_of_cancelled cancelled,
                List.count_cons_self]
              exact congrArg (Answer.cancelled :: ·) (induction cancelled)
          | nextBatch =>
              have behind := @induction reader.nextBatch.2 cancelled
              rw [nextBatch_of_cancelled cancelled] at behind
              rw [perform, nextBatch_of_cancelled cancelled]
              refine behind.trans ?_
              dsimp only
              rw [stopped]
              rfl
          | cancel =>
              have behind := @induction reader.cancel rfl
              refine behind.trans ?_
              rw [cancel, stopped]
              rfl

theorem pass_after_of_cancelled :
    (reader.after operations).pass =
      if some .cancelled ∈ (reader.told operations).map Prod.snd then reader.pass.abandon
      else reader.pass := by
  induction operations generalizing reader with
  | nil => rfl
  | cons operation rest induction =>
      rw [after, told, List.map_cons]
      rcases perform_of_cancelled cancelled operation with kept | kept | ⟨stopped, given⟩
      · rw [kept]
        exact (induction cancelled).trans (if_congr (by simp) rfl rfl)
      · rw [kept]
        exact (induction cancelled).trans (if_congr (by simp) rfl rfl)
      · have behind := @induction ⟨reader.pass.abandon, true, stopped⟩ rfl
        rw [Pass.abandon_abandon, ite_self] at behind
        rw [given, if_pos List.mem_cons_self]
        exact behind

theorem no_batch_of_cancelled :
    ∀ batch, some (.batch batch) ∉ (reader.told operations).map Prod.snd := by
  intro batch
  induction operations generalizing reader with
  | nil => exact List.not_mem_nil
  | cons operation rest induction =>
      rw [told, List.map_cons, List.mem_cons, not_or]
      rcases perform_of_cancelled cancelled operation with kept | kept | ⟨stopped, given⟩
      · rw [kept]
        exact ⟨by simp, induction cancelled⟩
      · rw [kept]
        exact ⟨by simp, induction cancelled⟩
      · rw [given]
        exact ⟨by simp, induction rfl⟩

end Cancelled

/-- What a caller can expect of a reader, after any operations in front and for any
operations behind. Once an answer of `next` has been no batch, all further answers of `next`
are the end, and what `nextBatch` is answered and where the pass is depend on the other
operations alone. Until then, `next` answers what `nextBatch` would, and moves the pass
alike. Once the reader is cancelled, `nextBatch` answers so each time and `next` at most
once, in front of the end. What is left of the script, the variables and the error policy
never change again; the open batch is given up with the first such answer. -/
theorem answers_of_any_operations (script : List Char) (context : Context)
    (front back : List Operation) :
    let first := Reader.ofScript script context
    let reader := first.after front
    (reader.stopped = true ↔
        ∃ answer ∈ answersTo .next (first.told front), answer.isBatch = false) ∧
      (reader.stopped = true →
        answersTo .next (reader.told back) = List.replicate (back.count .next) .finished ∧
          answersTo .nextBatch (reader.told back) =
            answersTo .nextBatch (reader.resume.told (back.filter (· ≠ .next))) ∧
          (reader.after back).pass =
            (reader.resume.after (back.filter (· ≠ .next))).pass) ∧
      (reader.stopped = false →
        reader.next.1 = reader.nextBatch.1 ∧ reader.next.2.pass = reader.nextBatch.2.pass) ∧
      (.cancel ∈ front →
        (∀ batch, some (.batch batch) ∉ (reader.told back).map Prod.snd) ∧
          answersTo .nextBatch (reader.told back) =
            List.replicate (back.count .nextBatch) .cancelled ∧
          answersTo .next (reader.told back) =
            (if reader.stopped then [] else [.cancelled]).takeD (back.count .next) .finished ∧
          (reader.after back).pass =
            if some .cancelled ∈ (reader.told back).map Prod.snd then
              { reader.pass with progress := ⟨reader.context, [], none⟩ }
            else reader.pass) := by
  intro first reader
  refine ⟨?_, ?_, ?_, ?_⟩
  · have stopped := @stopped_after_iff first front
    have going : ¬ first.stopped = true := Bool.false_ne_true
    rwa [or_iff_right going] at stopped
  · intro stopped
    exact ⟨answers_next_of_stopped stopped back, answers_nextBatch_of_stopped stopped back⟩
  · intro going
    rw [next_of_going going]
    exact ⟨rfl, rfl⟩
  · intro member
    have cancelled : reader.cancelled = true := (cancelled_after_iff front).mpr (.inr member)
    exact ⟨no_batch_of_cancelled cancelled back, answers_nextBatch_of_cancelled cancelled back,
      answers_next_of_cancelled cancelled back, pass_after_of_cancelled cancelled back⟩

/-- Behind a fault `next` has stopped, and `nextBatch` reads on up to the cancellation. -/
example :
    ((Reader.ofScript "a\nGO x\nb\nGO\nc".toList (.ofOptions {})).told
        [.next, .nextBatch, .next, .cancel, .nextBatch, .next]).map
      (fun entry => entry.2.map Answer.isBatch) =
        [some false, some true, some false, none, some false, some false] := by
  decide +kernel

end Reader

end Batchwise
