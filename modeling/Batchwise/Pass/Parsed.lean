import Batchwise.Pass

namespace Batchwise

/-! A script read to its end or to its first fault. -/

/-- A batch, and the error policy that is in force when it is executed: the one
that the directives in front of its separator have left. -/
structure Delivery where
  batch : Batch
  continueOnError : Bool
  deriving DecidableEq, Repr

structure Parsed where
  deliveries : List Delivery
  fault : Option Fault
  context : Context

namespace Parsed

def batches (parsed : Parsed) : List Batch :=
  parsed.deliveries.map (·.batch)

end Parsed

namespace Pass

/-! Each batch takes elements off the script or empties the open batch, so
asking for batches comes to an end. -/

def openBatches (progress : Progress) : Nat :=
  if progress.pending.isEmpty then 0 else 1

@[simp] theorem openBatches_append (progress : Progress) (element : Element) :
    openBatches (progress.append element) = 1 := rfl

@[simp] theorem openBatches_clear (progress : Progress) :
    openBatches progress.clear = 0 := rfl

@[simp] theorem openBatches_assign (progress : Progress) (name value : List Char) :
    openBatches (progress.assign name value) = openBatches progress := rfl

@[simp] theorem openBatches_setPolicy (progress : Progress) (continueOnError : Bool) :
    openBatches (progress.setPolicy continueOnError) = openBatches progress := rfl

def size (pass : Pass) : Nat :=
  2 * pass.elements.length + openBatches pass.progress

theorem finish_size {unterminated : Option Unterminated} {progress : Progress}
    {batch : Batch} (answered : (finish unterminated progress).1 = .batch batch) :
    (finish unterminated progress).2.size < openBatches progress := by
  unfold finish at answered ⊢
  split at answered
  · cases answered
  · split at answered
    · cases answered
    · rename_i nonempty
      simp [nonempty, size, openBatches, Progress.clear]

theorem advance_size {unterminated : Option Unterminated} {progress : Progress}
    {elements : List Element} {batch : Batch}
    (answered : (advance unterminated progress elements).1 = .batch batch) :
    (advance unterminated progress elements).2.size <
      2 * elements.length + openBatches progress := by
  fun_induction advance unterminated progress elements with
  | case1 progress =>
      have smaller := finish_size answered
      simpa using smaller
  | case2 | case3 | case9 => cases answered
  | case4 progress element rest _ _ _ _ _ induction =>
      have smaller := induction answered
      simp only [List.length_cons]
      omega
  | case5 progress element rest =>
      simp only [size, openBatches_clear, List.length_cons]
      omega
  | case6 progress element rest name value _ induction
  | case10 progress element rest _ _ induction =>
      have smaller := induction answered
      simp only [openBatches_assign, openBatches_setPolicy] at smaller
      simp only [List.length_cons]
      omega
  | case7 progress element name _ =>
      have smaller := finish_size answered
      simp only [List.length_singleton]
      omega
  | case8 progress element name _ literal rest _ induction =>
      have smaller := induction answered
      simp only [openBatches_assign] at smaller
      simp only [List.length_cons]
      omega
  | case11 progress element rest _ induction =>
      have smaller := induction answered
      simp only [openBatches_append] at smaller
      simp only [List.length_cons]
      omega

theorem nextBatch_size {pass : Pass} {batch : Batch}
    (answered : (pass.nextBatch false).1 = .batch batch) :
    (pass.nextBatch false).2.size < pass.size :=
  advance_size answered

def parse (pass : Pass) : Parsed :=
  match _answered : pass.nextBatch false with
  | (.batch batch, next) =>
    let following := next.parse
    { following with
      deliveries := ⟨batch, next.progress.context.continueOnError⟩ :: following.deliveries }
  | (.fault fault, next) => ⟨[], some fault, next.progress.context⟩
  | (_, next) => ⟨[], none, next.progress.context⟩
termination_by pass.size
decreasing_by
  have smaller := @nextBatch_size pass batch (by rw [_answered])
  rwa [_answered] at smaller

end Pass

def parseScript (script : List Char) (options : Options) : Parsed :=
  (Pass.ofScript script (.ofOptions options)).parse

end Batchwise
