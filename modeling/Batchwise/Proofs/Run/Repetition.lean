import Batchwise.Proofs.Pass.Block
import Batchwise.Proofs.Run.Numbering

namespace Batchwise

/-! A repeat count against a batch that is written out. Both ways ask for the same jobs one
after the other, and only the numbers and the lines that are told differ. -/

/-- The script asks for these jobs, and then for what the rest of it asks for. -/
structure Parsed.Leads (front : List Job) (rest parsed : Parsed) : Prop where
  jobs : parsed.jobs = front ++ rest.jobs
  fault : parsed.fault.map Fault.unlined = rest.fault.map Fault.unlined

theorem Parsed.Leads.alike {front : List Job} {first second rest : Parsed}
    (leads : Leads front rest first) (leadsToo : Leads front rest second) :
    first.AsksAlike second where
  jobs := leads.jobs.trans leadsToo.jobs.symm
  fault := leads.fault.trans leadsToo.fault.symm

theorem jobs_down (lines : Nat) (deliveries : List Delivery) :
    (deliveries.map (Delivery.down lines)).flatMap Delivery.jobs =
      deliveries.flatMap Delivery.jobs := by
  rw [List.flatMap_map]
  apply List.flatMap_congr
  intro delivery _
  have text : (delivery.down lines).batch.text = delivery.batch.text :=
    Batch.text_down lines delivery.batch
  rw [Delivery.jobs, Delivery.jobs, text]
  rfl

theorem unlined_down (lines : Nat) (fault : Option Fault) :
    (fault.map (Fault.down lines)).map Fault.unlined = fault.map Fault.unlined := by
  cases fault <;> rfl

theorem Parsed.leads_down (lines : Nat) (parsed : Parsed) :
    Leads [] parsed (parsed.down lines) where
  jobs := jobs_down lines parsed.deliveries
  fault := unlined_down lines parsed.fault

theorem Parsed.asksAlike_andThen (parsed : Parsed) {following other : Context → Parsed}
    (alike : parsed.fault = none → (following parsed.context).AsksAlike (other parsed.context)) :
    (parsed.andThen following).AsksAlike (parsed.andThen other) := by
  rw [andThen, andThen]
  cases readable : parsed.fault with
  | some fault => exact ⟨rfl, rfl⟩
  | none =>
      have behind := alike readable
      refine ⟨?_, behind.fault⟩
      rw [jobs, jobs, List.flatMap_append, List.flatMap_append]
      exact congrArg (parsed.jobs ++ ·) behind.jobs

theorem Parsed.AsksAlike.down {first second : Parsed} (alike : first.AsksAlike second)
    (lines : Nat) : (first.down lines).AsksAlike (second.down lines) where
  jobs := by
    rw [(first.leads_down lines).jobs, (second.leads_down lines).jobs, alike.jobs]
  fault := by
    rw [(first.leads_down lines).fault, (second.leads_down lines).fault, alike.fault]

namespace Pass

theorem mode_parse (unterminated : Option Unterminated) (progress : Progress)
    (elements : List Element) :
    (parse ⟨elements, unterminated, progress⟩).context.mode = progress.context.mode := by
  induction progress, elements using induct with
  | atEnd progress =>
      rw [parse_nil]
      cases unterminated with
      | some region => rfl
      | none =>
          dsimp only
          split <;> rfl
  | atFault progress element rest found taken => rw [parse_of_step_error _ taken]
  | before progress element rest moved taken induction =>
      rw [parse_of_step _ taken, ← mode_of_step taken]
      exact induction

end Pass

/-! ## A block with a count -/

section Block

variable {context : Context} {block : List Char} {elements : List Element}
  (isBlock : IsBlock context.mode.isScripting block elements)

include isBlock

theorem leads_block {count : Option Nat} (few : ∀ times ∈ count, times ≤ 2147483647)
    (positive : 1 ≤ count.getD 1) (tail : List Char) :
    Parsed.Leads
      (List.replicate (count.getD 1)
        (.execute (context.blockBatch elements 1).text context.continueOnError))
      (Pass.ofScript tail context).parse
      (Pass.ofScript (block ++ separatorLine count ++ tail) context).parse := by
  have read := (closesBatches_block isBlock count).parse_append tail context
  rw [parse_block isBlock few] at read
  have own : (Delivery.mk (context.blockBatch elements (count.getD 1 : Nat))
      context.continueOnError).jobs =
        List.replicate (count.getD 1)
          (.execute (context.blockBatch elements 1).text context.continueOnError) := by
    have executable : (context.blockBatch elements (count.getD 1 : Nat)).isExecutable = true :=
      decide_eq_true (Int.natCast_pos.mpr positive)
    rw [Delivery.jobs, if_pos executable]
    rfl
  have behind := (Pass.ofScript tail context).parse.leads_down
    ((block ++ separatorLine count).count '\n')
  rw [read]
  refine ⟨?_, behind.fault⟩
  rw [← own]
  exact congrArg (Delivery.jobs _ ++ ·) behind.jobs

/-- Written out several times, a block asks for one execution each time. The induction is
over the number of times. -/
theorem leads_written_out (times : Nat) (tail : List Char) :
    Parsed.Leads
      (List.replicate times
        (.execute (context.blockBatch elements 1).text context.continueOnError))
      (Pass.ofScript tail context).parse
      (Pass.ofScript
        ((List.replicate times (block ++ separatorLine none)).flatten ++ tail) context).parse := by
  induction times with
  | zero => exact ⟨rfl, rfl⟩
  | succ times induction =>
      have noCount : ∀ times ∈ (none : Option Nat), times ≤ 2147483647 := by simp
      have first := leads_block isBlock noCount (Nat.le_refl 1)
        ((List.replicate times (block ++ separatorLine none)).flatten ++ tail)
      have unfolded : (List.replicate (times + 1) (block ++ separatorLine none)).flatten ++ tail =
          block ++ separatorLine none ++
            ((List.replicate times (block ++ separatorLine none)).flatten ++ tail) := by
        rw [List.replicate_succ, List.flatten_cons, List.append_assoc]
      rw [unfolded]
      refine ⟨?_, first.fault.trans induction.fault⟩
      rw [first.jobs, induction.jobs, ← List.append_assoc]
      rfl

end Block

/-- A repeat count means the same as writing the batch out. Behind any script that closes
its batches, and in front of any other one, a block that is executed several times and one
that is written so many times are run alike, whatever the database replies and whenever
the run is cancelled: only the numbers of batches and executions and the lines differ. -/
theorem repetition_means_writing_out {σ : Type} (database : Database σ) (state : σ)
    (cancellation : Cancellation) (options : Options) {front block : List Char}
    (tail : List Char) {elements : List Element} {times : Nat}
    (closes : ClosesBatches front)
    (isBlock : IsBlock options.mode.isScripting block elements)
    (positive : 1 ≤ times) (few : times ≤ 2147483647) :
    let repeated := front ++ (block ++ separatorLine (some times) ++ tail)
    let written :=
      front ++ ((List.replicate times (block ++ separatorLine none)).flatten ++ tail)
    (runScript database state cancellation options repeated).1.Alike
        (runScript database state cancellation options written).1 ∧
      (runScript database state cancellation options repeated).2 =
        (runScript database state cancellation options written).2 := by
  intro repeated written
  apply runScript_alike
  rw [parseScript, parseScript, closes.parse_append, closes.parse_append]
  apply Parsed.asksAlike_andThen
  intro _
  apply Parsed.AsksAlike.down
  have mode : (Pass.ofScript front (.ofOptions options)).parse.context.mode = options.mode :=
    Pass.mode_parse _ _ _
  rw [← mode] at isBlock
  have fewTimes : ∀ count ∈ some times, count ≤ 2147483647 := by simpa using few
  have one := leads_block isBlock fewTimes positive tail
  exact one.alike (leads_written_out isBlock times tail)

/-- The second of three repetitions fails. Under one policy that ends the run, and under the
other one the run is cancelled while it is told that the repetition has ended. The block holds
a comment and a literal that look like separators. -/
theorem repetition_means_writing_out_of_hidden_lines :
    let database : Database Nat := ⟨fun count _ =>
      (⟨[.completed 1], if count = 2 then some "no" else none⟩, count + 1)⟩
    let atThirdEnd : Cancellation := ⟨false, fun call count => call = .ended && count = 3⟩
    let front := "A\nGO 0\nB\nGO\n".toList
    let block := "-- GO\nS '\nGO'\n".toList
    let elements := (Cursor.ofScript block).elements.elements
    let written :=
      front ++ ((List.replicate 3 (block ++ separatorLine none)).flatten ++ ":x".toList)
    let stopped := runScript database 0 .never { continueOnError := false } written
    let cancelled := runScript database 0 atThirdEnd {} written
    ClosesBatches front ∧ IsBlock true block elements ∧ 1 ≤ 3 ∧ 3 ≤ 2147483647 ∧
      (stopped.1.code, stopped.1.executed, stopped.1.failed, stopped.2) =
        (.batchFailed, 2, 1, 3) ∧
      (cancelled.1.code, cancelled.1.executed, cancelled.1.failed, cancelled.2) =
        (.userCancelled, 2, 1, 3) := by
  intro database atThirdEnd front block elements written stopped cancelled
  have closed : (Cursor.ofScript front).elements.unterminated = none := by decide +kernel
  have closedToo : (Cursor.ofScript block).elements.unterminated = none := by decide +kernel
  have separates : ∀ last ∈ (Cursor.ofScript front).elements.elements.getLast?,
      last.isSeparator = true ∧ last.text.getLast? = some '\n' := by decide +kernel
  have ends : ∀ last ∈ elements.getLast?,
      last.kind = .text ∧ last.text.getLast? = some '\n' := by decide +kernel
  have content : ∀ element ∈ elements,
      element.isSeparator = false ∧ (true && element.isDirective) = false := by decide +kernel
  have closes : ClosesBatches front := ⟨_, by rw [← closed], separates⟩
  have isBlock : IsBlock true block elements :=
    ⟨by rw [← closedToo], by decide +kernel, ends, content⟩
  rcases repetition_means_writing_out database 0 .never { continueOnError := false } ":x".toList
    closes isBlock (show 1 ≤ 3 by decide) (show 3 ≤ 2147483647 by decide) with
    ⟨alike, final⟩
  rcases repetition_means_writing_out database 0 atThirdEnd {} ":x".toList closes isBlock
    (show 1 ≤ 3 by decide) (show 3 ≤ 2147483647 by decide) with ⟨alikeToo, finalToo⟩
  refine ⟨closes, isBlock, by decide, by decide, ?_, ?_⟩
  · rw [← alike.code, ← alike.executed, ← alike.failed, ← final]
    decide +kernel
  · rw [← alikeToo.code, ← alikeToo.executed, ← alikeToo.failed, ← finalToo]
    decide +kernel

end Batchwise
