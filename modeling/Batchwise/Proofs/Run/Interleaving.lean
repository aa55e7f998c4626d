import Batchwise.Pass.Reader
import Batchwise.Proofs.Pass.Step
import Batchwise.Run
import Mathlib.Data.List.Basic

namespace Batchwise

/-! A preview asks a reader for every batch of a script before it shows one. A run
can ask for a batch when the one in front of it is done. Both get what reading the
script at once gives. -/

namespace Parsed

def answers (parsed : Parsed) : List Answer :=
  parsed.batches.map .batch ++ (parsed.fault.map .fault).toList

end Parsed

namespace Pass

theorem advance_ne_cancelled (unterminated : Option Unterminated) (progress : Progress)
    (elements : List Element) :
    (advance unterminated progress elements).1 ≠ .cancelled := by
  have finished : ∀ progress, (finish unterminated progress).1 ≠ .cancelled := by
    intro progress
    simp only [finish]
    repeat' split
    all_goals simp
  fun_induction advance unterminated progress elements with
  | case1 | case7 => exact finished _
  | case2 | case3 | case5 | case9 => simp
  | case4 | case6 | case8 | case10 | case11 => assumption

theorem cancelled_iff {pass following : Pass} {cancelled : Bool} {answer : Answer}
    (answered : pass.nextBatch cancelled = (answer, following)) :
    answer = .cancelled ↔ cancelled = true := by
  cases cancelled with
  | true =>
    cases answered
    exact iff_of_true rfl rfl
  | false =>
    have other := advance_ne_cancelled pass.unterminated pass.progress pass.elements
    have first : (advance pass.unterminated pass.progress pass.elements).1 = answer :=
      congrArg Prod.fst answered
    rw [first] at other
    exact iff_of_false other Bool.false_ne_true

theorem active_of_answered {pass following : Pass} {cancelled : Bool} {answer : Answer}
    (answered : pass.nextBatch cancelled = (answer, following)) (other : answer ≠ .cancelled) :
    cancelled = false ∧ pass.nextBatch false = (answer, following) := by
  have active := Bool.eq_false_iff.mpr (mt (cancelled_iff answered).mpr other)
  exact ⟨active, active ▸ answered⟩

theorem size_of_batch {pass following : Pass} {cancelled : Bool} {batch : Batch}
    (answered : pass.nextBatch cancelled = (.batch batch, following)) :
    following.size < pass.size := by
  rcases active_of_answered answered (by simp) with ⟨-, asked⟩
  have smaller := nextBatch_size (congrArg Prod.fst asked)
  rwa [asked] at smaller

end Pass

namespace Reader

def answers : Nat → Reader → List Answer
  | 0, _ => []
  | times + 1, reader => reader.next.1 :: reader.next.2.answers times

theorem answers_of_stopped (times : Nat) {reader : Reader} (stopped : reader.stopped = true) :
    reader.answers times = [].takeD times .finished := by
  induction times with
  | zero => rfl
  | succ times induction =>
    have unchanged : reader.next = (.finished, reader) := by rw [next, if_pos stopped]
    rw [answers, unchanged, induction]
    rfl

theorem answers_eq_parse (times : Nat) (pass : Pass) :
    (Reader.mk pass false false).answers times =
      pass.parse.answers.takeD times .finished := by
  induction times generalizing pass with
  | zero => rfl
  | succ times induction =>
    have asked : (Reader.mk pass false false).next =
        ((pass.nextBatch false).1,
          ⟨(pass.nextBatch false).2, false, !(pass.nextBatch false).1.isBatch⟩) := rfl
    rw [answers, asked]
    rcases answered : pass.nextBatch false with ⟨answer, following⟩
    cases answer with
    | batch batch =>
      rw [Pass.parse_of_batch answered]
      exact congrArg (Answer.batch batch :: ·) (induction following)
    | fault fault =>
      rw [Pass.parse_of_fault answered]
      exact congrArg (Answer.fault fault :: ·) (answers_of_stopped times rfl)
    | finished =>
      rw [Pass.parse_of_finished answered]
      exact congrArg (Answer.finished :: ·) (answers_of_stopped times rfl)
    | cancelled => exact absurd ((Pass.cancelled_iff answered).mp rfl) Bool.false_ne_true

end Reader

namespace Run

variable {σ : Type}

def take (database : Database σ) (cancellation : Cancellation) (number : Nat)
    (delivery : Delivery) (run : Run σ) : Run σ × Option Code :=
  if delivery.batch.isExecutable then
    let count := delivery.batch.count.toNat
    executeTimes database cancellation delivery number count count run
  else
    (run.tell cancellation
      (.message .warning (skippedMessage number delivery.batch.count)), none)

theorem runAll_cons (database : Database σ) (cancellation : Cancellation)
    (fault : Option Fault) (number : Nat) (delivery : Delivery) (rest : List Delivery)
    {run : Run σ} (active : run.cancelled = false) :
    runAll database cancellation fault number (delivery :: rest) run =
      match take database cancellation number delivery run with
      | (run, some code) => (run, code)
      | (run, none) => runAll database cancellation fault (number + 1) rest run := by
  rw [runAll, active, if_neg Bool.false_ne_true, take]
  dsimp only
  split <;> rfl

/-- Run the batches that are left of a pass, and ask for each of them when the one in
front of it is done. -/
def interleave (database : Database σ) (cancellation : Cancellation) (number : Nat)
    (pass : Pass) (run : Run σ) : Run σ × Code :=
  match _answered : pass.nextBatch run.cancelled with
  | (.batch batch, following) =>
    match take database cancellation number
      ⟨batch, following.progress.context.continueOnError⟩ run with
    | (run, some code) => (run, code)
    | (run, none) => interleave database cancellation (number + 1) following run
  | (.fault fault, _) =>
    let run := run.tell cancellation (.message .error fault.toError.message)
    ({ run with error := some fault.toError }, .parseError)
  | (.cancelled, _) => ({ run with error := some .cancelled }, .userCancelled)
  | (.finished, _) => (run, .success)
termination_by pass.size
decreasing_by exact Pass.size_of_batch _answered

theorem interleave_eq_runAll (database : Database σ) (cancellation : Cancellation)
    (number : Nat) (pass : Pass) (run : Run σ) :
    interleave database cancellation number pass run =
      runAll database cancellation pass.parse.fault number pass.parse.deliveries run := by
  fun_induction interleave database cancellation number pass run with
  | case1 number pass run batch following answered next code taken =>
    rcases Pass.active_of_answered answered (by simp) with ⟨active, asked⟩
    rw [Pass.parse_of_batch asked]
    refine ((runAll_cons _ _ _ _ _ _ active).trans ?_).symm
    rw [taken]
  | case2 number pass run batch following answered next taken induction =>
    rcases Pass.active_of_answered answered (by simp) with ⟨active, asked⟩
    rw [Pass.parse_of_batch asked]
    refine ((runAll_cons _ _ _ _ _ _ active).trans ?_).symm
    rw [taken]
    exact induction.symm
  | case3 number pass run fault following answered =>
    rcases Pass.active_of_answered answered (by simp) with ⟨active, asked⟩
    rw [Pass.parse_of_fault asked, runAll, active, if_neg Bool.false_ne_true]
  | case4 number pass run following answered =>
    unfold runAll
    rw [if_pos ((Pass.cancelled_iff answered).mp rfl)]
  | case5 number pass run following answered =>
    rcases Pass.active_of_answered answered (by simp) with ⟨active, asked⟩
    rw [Pass.parse_of_finished asked, runAll, active, if_neg Bool.false_ne_true]

end Run

def runInterleaved {σ : Type} (database : Database σ) (state : σ)
    (cancellation : Cancellation) (options : Options) (script : List Char) : Outcome × σ :=
  let (run, code) := Run.interleave database cancellation 1
    (.ofScript script (.ofOptions options)) (.start state cancellation.before)
  (run.finish code, run.database)

theorem runInterleaved_eq_runScript {σ : Type} (database : Database σ) (state : σ)
    (cancellation : Cancellation) (options : Options) (script : List Char) :
    runInterleaved database state cancellation options script =
      runScript database state cancellation options script := by
  rw [runInterleaved, Run.interleave_eq_runAll]
  rfl

end Batchwise
