import Batchwise.Pass.Parsed

namespace Batchwise

/-! A pass takes one element at a time. A step says all that taking one leads to:
a fault, or perhaps a batch, and the elements that are left. -/

structure Moved where
  /-- The batch that the element has closed. -/
  batch : Option Batch
  progress : Progress
  rest : List Element

namespace Moved

def delivery (moved : Moved) : Option Delivery :=
  moved.batch.map fun batch => ⟨batch, moved.progress.context.continueOnError⟩

end Moved

namespace Parsed

def deliver (parsed : Parsed) (delivery : Option Delivery) : Parsed :=
  { parsed with deliveries := delivery.toList ++ parsed.deliveries }

@[simp] theorem fault_deliver (parsed : Parsed) (delivery : Option Delivery) :
    (parsed.deliver delivery).fault = parsed.fault := rfl

@[simp] theorem deliveries_deliver (parsed : Parsed) (delivery : Option Delivery) :
    (parsed.deliver delivery).deliveries = delivery.toList ++ parsed.deliveries := rfl

@[simp] theorem batches_deliver (parsed : Parsed) (moved : Moved) :
    (parsed.deliver moved.delivery).batches = moved.batch.toList ++ parsed.batches := by
  rw [batches, deliveries_deliver, List.map_append, Moved.delivery]
  cases moved.batch <;> rfl

end Parsed

namespace Pass

/-- Take the element in front of `rest`. A fault leaves the progress as it is. -/
def step (progress : Progress) (element : Element) (rest : List Element) :
    Except (Fault × List Element) Moved :=
  match Line.read progress.context.mode.isScripting element with
  | .error malformation => .error (⟨malformation, element.position⟩, rest)
  | .ok (.separator written) =>
    match progress.repeatCount written with
    | none => .error (⟨.separator, element.position⟩, rest)
    | some count =>
      if progress.pending.isEmpty then .ok ⟨none, progress, rest⟩
      else .ok ⟨some (progress.close count), progress.clear, rest⟩
  | .ok (.assign name value) => .ok ⟨none, progress.assign name value, rest⟩
  | .ok (.assignLiteral name) =>
    match rest with
    | [] => .ok ⟨none, progress, []⟩
    | literal :: rest =>
      if literal.kind = .literal .double then
        .ok ⟨none, progress.assign name (literal.content.getD []), rest⟩
      else .error (⟨.directive ((words element.text).headD []), element.position⟩, rest)
  | .ok (.onError continueOnError) => .ok ⟨none, progress.setPolicy continueOnError, rest⟩
  | .ok .content => .ok ⟨none, progress.append element, rest⟩

theorem advance_cons (unterminated : Option Unterminated) (progress : Progress)
    (element : Element) (rest : List Element) :
    advance unterminated progress (element :: rest) =
      match step progress element rest with
      | .error (fault, left) => (.fault fault, ⟨left, unterminated, progress⟩)
      | .ok ⟨some batch, next, left⟩ => (.batch batch, ⟨left, unterminated, next⟩)
      | .ok ⟨none, next, left⟩ => advance unterminated next left := by
  rw [advance, step]
  cases Line.read progress.context.mode.isScripting element with
  | error malformation => rfl
  | ok line =>
    cases line with
    | separator written =>
      dsimp only
      cases progress.repeatCount written with
      | none => rfl
      | some count =>
        dsimp only
        cases progress.pending.isEmpty <;> rfl
    | assignLiteral name =>
      cases rest with
      | nil => rfl
      | cons literal rest =>
        dsimp only
        split <;> rfl
    | assign name value => rfl
    | onError continueOnError => rfl
    | content => rfl

theorem step_shorter {progress : Progress} {element : Element} {rest : List Element}
    {moved : Moved} (taken : step progress element rest = .ok moved) :
    moved.rest.length ≤ rest.length := by
  rw [step] at taken
  repeat' split at taken
  all_goals cases taken
  all_goals simp

/-! ## A whole pass -/

theorem parse_of_batch {pass next : Pass} {batch : Batch}
    (answered : pass.nextBatch false = (.batch batch, next)) :
    pass.parse = next.parse.deliver (some ⟨batch, next.progress.context.continueOnError⟩) := by
  rw [parse]
  split <;> simp_all [Parsed.deliver]

theorem parse_of_fault {pass next : Pass} {fault : Fault}
    (answered : pass.nextBatch false = (.fault fault, next)) :
    pass.parse = ⟨[], some fault, next.progress.context⟩ := by
  rw [parse]
  split <;> simp_all

theorem parse_of_finished {pass next : Pass}
    (answered : pass.nextBatch false = (.finished, next)) :
    pass.parse = ⟨[], none, next.progress.context⟩ := by
  rw [parse]
  split <;> simp_all

theorem parse_congr {first second : Pass}
    (same : first.nextBatch false = second.nextBatch false) : first.parse = second.parse := by
  rw [parse, same, ← parse]

/-- Behind the last element, an unterminated region is a fault, and otherwise what
is pending is the last batch. -/
theorem parse_nil (unterminated : Option Unterminated) (progress : Progress) :
    parse ⟨[], unterminated, progress⟩ =
      match unterminated with
      | some region => ⟨[], some region.fault, progress.context⟩
      | none =>
        if progress.pending.isEmpty then ⟨[], none, progress.context⟩
        else ⟨[⟨progress.close 1, progress.context.continueOnError⟩], none, progress.context⟩ := by
  cases unterminated with
  | some region =>
    have answer : nextBatch ⟨[], some region, progress⟩ false =
        (.fault region.fault, ⟨[], none, progress⟩) := rfl
    exact parse_of_fault answer
  | none =>
    cases nothing : progress.pending.isEmpty with
    | true =>
      have answer : nextBatch ⟨[], none, progress⟩ false = (.finished, ⟨[], none, progress⟩) := by
        rw [nextBatch, if_neg Bool.false_ne_true, advance, finish, if_pos nothing]
      exact parse_of_finished answer
    | false =>
      have answer : nextBatch ⟨[], none, progress⟩ false =
          (.batch (progress.close 1), ⟨[], none, progress.clear⟩) := by
        rw [nextBatch, if_neg Bool.false_ne_true, advance, finish, nothing,
          if_neg Bool.false_ne_true]
      rw [parse_of_batch answer, parse_of_finished (Eq.refl (nextBatch ⟨[], none, _⟩ false))]
      rfl

theorem parse_of_step {progress : Progress} {element : Element} {rest : List Element}
    {moved : Moved} (unterminated : Option Unterminated)
    (taken : step progress element rest = .ok moved) :
    parse ⟨element :: rest, unterminated, progress⟩ =
      (parse ⟨moved.rest, unterminated, moved.progress⟩).deliver moved.delivery := by
  have answer : nextBatch ⟨element :: rest, unterminated, progress⟩ false =
      advance unterminated progress (element :: rest) := rfl
  rw [advance_cons, taken] at answer
  rcases moved with ⟨batch, next, left⟩
  cases batch with
  | none => exact parse_congr answer
  | some batch => exact parse_of_batch answer

theorem parse_of_step_error {progress : Progress} {element : Element} {rest : List Element}
    {found : Fault × List Element} (unterminated : Option Unterminated)
    (taken : step progress element rest = .error found) :
    parse ⟨element :: rest, unterminated, progress⟩ =
      ⟨[], some found.1, progress.context⟩ := by
  have answer : nextBatch ⟨element :: rest, unterminated, progress⟩ false =
      advance unterminated progress (element :: rest) := rfl
  rw [advance_cons, taken] at answer
  exact parse_of_fault answer

/-- What holds at the end of a script, at each fault, and wherever it holds behind
a step, holds at every place. -/
theorem induct {motive : Progress → List Element → Prop}
    (atEnd : ∀ progress, motive progress [])
    (atFault : ∀ progress element rest found, step progress element rest = .error found →
      motive progress (element :: rest))
    (before : ∀ progress element rest moved, step progress element rest = .ok moved →
      motive moved.progress moved.rest → motive progress (element :: rest))
    (progress : Progress) (elements : List Element) : motive progress elements :=
  match elements with
  | [] => atEnd progress
  | element :: rest =>
    match taken : step progress element rest with
    | .error found => atFault progress element rest found taken
    | .ok moved =>
      before progress element rest moved taken
        (induct atEnd atFault before moved.progress moved.rest)
termination_by elements.length
decreasing_by exact Nat.lt_succ_of_le (step_shorter taken)

/-- The places in front of which a pass arrives before its first fault, each with what
the pass knows there. -/
inductive Arrives (script : List Char) (options : Options) : Progress → List Element → Prop
  | atStart :
      Arrives script options (.ofContext (.ofOptions options))
        (Cursor.ofScript script).elements.elements
  | behind {progress : Progress} {element : Element} {rest : List Element} {moved : Moved}
      (arrived : Arrives script options progress (element :: rest))
      (taken : step progress element rest = .ok moved) :
      Arrives script options moved.progress moved.rest

end Pass

end Batchwise
