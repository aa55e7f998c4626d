import Batchwise.Proofs.Pass.Part
import Batchwise.Proofs.Variable.Expansion

namespace Batchwise

/-! What the values of variables can change. A pass looks at the elements of a script
and never at a text that it has expanded, so passes that differ in their variables
alone take the same parts and fill the same batches. The one thing that a pass reads
behind an expansion is the repeat count of a separator. -/

namespace Element

def RefersInCount (element : Element) : Prop :=
  ∃ written, (words element.text)[1]? = some written ∧ referenceOpening <:+: written

end Element

namespace Context

theorem expand_of_no_opening (context : Context) {text : List Char}
    (noOpening : ¬ referenceOpening <:+: text) : context.expand text = text := by
  rw [expand]
  split
  · exact Batchwise.expand_of_no_opening _ noOpening
  · rfl

theorem separatorCount_congr (first second : Context) {element : Element}
    (plain : ¬ element.RefersInCount) :
    first.separatorCount element = second.separatorCount element := by
  rw [separatorCount, separatorCount]
  cases second : (words element.text)[1]? with
  | none => rfl
  | some written =>
      have noOpening : ¬ referenceOpening <:+: written :=
        fun opening => plain ⟨written, second, opening⟩
      simp only [expand_of_no_opening _ noOpening]

/-- One context has no count for the separator and the other one has, which only a
reference can bring about. -/
structure RejectsAlone (rejecting accepting : Context) (separator : Element) : Prop where
  separates : separator.isSeparator = true
  endsLine : separator.ending.isLineEnd = true
  refers : separator.RefersInCount
  rejected : rejecting.separatorCount separator = none
  accepted : (accepting.separatorCount separator).isSome = true

theorem rejectsAlone_of_counts {rejecting accepting : Context} {separator : Element}
    {count : Int} (separates : separator.isSeparator = true)
    (endsLine : separator.ending.isLineEnd = true)
    (rejected : rejecting.separatorCount separator = none)
    (accepted : accepting.separatorCount separator = some count) :
    rejecting.RejectsAlone accepting separator where
  separates := separates
  endsLine := endsLine
  refers := by
    by_contra plain
    have same := rejecting.separatorCount_congr accepting plain
    rw [rejected, accepted] at same
    cases same
  rejected := rejected
  accepted := by
    rw [accepted]
    rfl

theorem same_or_refersInCount {first second : Context} {separator : Element}
    {count other : Int} (counted : first.separatorCount separator = some count)
    (countedToo : second.separatorCount separator = some other) :
    count = other ∨ separator.RefersInCount := by
  by_cases refers : separator.RefersInCount
  · exact .inr refers
  · have same := first.separatorCount_congr second refers
    rw [counted, countedToo] at same
    exact .inl (Option.some.inj same)

end Context

namespace Batch

def ClosedBy (elements : List Element) (batch : Batch) (separator : Element) : Prop :=
  ∃ before last between after,
    elements = before ++ last :: between ++ separator :: after ∧
    batch.pieces.getLast?.map (·.element) = some last ∧
    (∀ element ∈ between, element.isSeparator = false) ∧ separator.isSeparator = true

end Batch

/-! ## Two passes at the same place -/

namespace Progress

structure Alike (first second : Progress) : Prop where
  mode : first.context.mode = second.context.mode
  policy : first.context.continueOnError = second.context.continueOnError
  contents : first.pending.map (·.element) = second.pending.map (·.element)
  start : first.start = second.start

namespace Alike

variable {first second : Progress}

theorem isEmpty (alike : first.Alike second) :
    first.pending.isEmpty = second.pending.isEmpty := by
  have contents := congrArg List.isEmpty alike.contents
  rwa [List.isEmpty_map, List.isEmpty_map] at contents

theorem append (alike : first.Alike second) (element : Element) :
    (first.append element).Alike (second.append element) where
  mode := alike.mode
  policy := alike.policy
  contents := congrArg (element :: ·) alike.contents
  start := by
    rw [Progress.append, Progress.append, alike.start]

theorem clear (alike : first.Alike second) : first.clear.Alike second.clear :=
  ⟨alike.mode, alike.policy, rfl, rfl⟩

theorem assign (alike : first.Alike second) (name value : List Char) :
    (first.assign name value).Alike (second.assign name value) :=
  ⟨alike.mode, alike.policy, alike.contents, alike.start⟩

theorem setPolicy (alike : first.Alike second) (continueOnError : Bool) :
    (first.setPolicy continueOnError).Alike (second.setPolicy continueOnError) :=
  ⟨alike.mode, rfl, alike.contents, alike.start⟩

theorem contents_close (alike : first.Alike second) (count other : Int) :
    (first.close count).pieces.map (·.element) =
      (second.close other).pieces.map (·.element) := by
  rw [close, close, List.map_reverse, List.map_reverse, alike.contents]

theorem start_close (alike : first.Alike second) (count other : Int) :
    (first.close count).start = (second.close other).start := by
  rw [close, close, alike.start]

end Alike

/-- Behind the last piece of the open batch there is no separator yet. -/
def OpenBehind (progress : Progress) (before : List Element) : Prop :=
  ∀ piece ∈ progress.pending.head?, ∃ front between,
    before = front ++ piece.element :: between ∧
      ∀ element ∈ between, element.isSeparator = false

end Progress

namespace Moved

/-- Two passes have taken the same part. Batches that it has closed have the same
contents, and the same count unless that is written with a reference. -/
structure Alike (element : Element) (first second : Moved) : Prop where
  progress : first.progress.Alike second.progress
  rest : first.rest = second.rest
  batch : Option.Rel (fun one other =>
    one.start = other.start ∧
      one.pieces.map (·.element) = other.pieces.map (·.element) ∧
      (one.count = other.count ∨ element.RefersInCount)) first.batch second.batch

end Moved

namespace Pass

inductive Agrees (first second : Context) (element : Element) :
    Except (Fault × List Element) Moved → Except (Fault × List Element) Moved → Prop
  | fault (found : Fault × List Element) :
      Agrees first second element (.error found) (.error found)
  | moved {one other : Moved} (alike : one.Alike element other) :
      Agrees first second element (.ok one) (.ok other)
  | firstRejects {rest : List Element} {other : Moved}
      (rejects : first.RejectsAlone second element) :
      Agrees first second element (.error (⟨.separator, element.position⟩, rest)) (.ok other)
  | secondRejects {rest : List Element} {one : Moved}
      (rejects : second.RejectsAlone first element) :
      Agrees first second element (.ok one) (.error (⟨.separator, element.position⟩, rest))

theorem step_agrees {first second : Progress} (alike : first.Alike second)
    (element : Element) (rest : List Element) :
    Agrees first.context second.context element
      (step first element rest) (step second element rest) := by
  rw [step, step, alike.mode]
  cases read : Line.read second.context.mode.isScripting element with
  | error malformation => exact .fault _
  | ok line =>
      cases line with
      | separator written =>
          rcases Line.renders_of_read read with ⟨separates, endsLine, rfl⟩
          dsimp only
          rw [Progress.repeatCount_words, Progress.repeatCount_words]
          cases counted : first.context.separatorCount element with
          | none =>
              cases other : second.context.separatorCount element with
              | none => exact .fault _
              | some count =>
                  have rejects := Context.rejectsAlone_of_counts separates endsLine counted other
                  dsimp only
                  split <;> exact .firstRejects rejects
          | some count =>
              cases other : second.context.separatorCount element with
              | none =>
                  have rejects := Context.rejectsAlone_of_counts separates endsLine other counted
                  dsimp only
                  split <;> exact .secondRejects rejects
              | some otherCount =>
                  have counts := Context.same_or_refersInCount counted other
                  dsimp only
                  rw [alike.isEmpty]
                  split
                  · exact .moved ⟨alike, rfl, .none⟩
                  · exact .moved ⟨alike.clear, rfl,
                      .some ⟨alike.start_close _ _, alike.contents_close _ _, counts⟩⟩
      | assign name value => exact .moved ⟨alike.assign name value, rfl, .none⟩
      | assignLiteral name =>
          cases rest with
          | nil => exact .moved ⟨alike, rfl, .none⟩
          | cons literal rest =>
              dsimp only
              split
              · exact .moved ⟨alike.assign name _, rfl, .none⟩
              · exact .fault _
      | onError continueOnError =>
          exact .moved ⟨alike.setPolicy continueOnError, rfl, .none⟩
      | content => exact .moved ⟨alike.append element, rfl, .none⟩

end Pass

/-! ## What closes a batch -/

namespace Progress

theorem openBehind_of_isEmpty {progress : Progress} (before : List Element)
    (nothing : progress.pending = []) : progress.OpenBehind before := by
  intro piece first
  rw [nothing] at first
  cases first

theorem openBehind_append (progress : Progress) (before : List Element) (element : Element) :
    (progress.append element).OpenBehind (before ++ [element]) := by
  intro piece first
  cases first
  exact ⟨before, [], rfl, by simp⟩

theorem OpenBehind.skip {progress next : Progress} {before here : List Element}
    (opened : progress.OpenBehind before) (same : next.pending = progress.pending)
    (other : ∀ element ∈ here, element.isSeparator = false) :
    next.OpenBehind (before ++ here) := by
  intro piece first
  rw [same] at first
  rcases opened piece first with ⟨front, between, rfl, notSeparator⟩
  refine ⟨front, between ++ here, by simp, ?_⟩
  intro element member
  rcases List.mem_append.mp member with member | member
  · exact notSeparator element member
  · exact other element member

theorem OpenBehind.closedBy {progress : Progress} {before : List Element}
    (opened : progress.OpenBehind before) (filled : progress.pending.isEmpty = false)
    {separator : Element} (separates : separator.isSeparator = true) (count : Int)
    (rest : List Element) :
    (progress.close count).ClosedBy (before ++ separator :: rest) separator := by
  cases pending : progress.pending with
  | nil =>
      rw [pending] at filled
      cases filled
  | cons piece following =>
      have first : piece ∈ progress.pending.head? := by simp [pending]
      rcases opened piece first with ⟨front, between, rfl, notSeparator⟩
      refine ⟨front, piece.element, between, rest, rfl, ?_, notSeparator, separates⟩
      simp [close, pending]

end Progress

namespace Pass

theorem openBehind_of_step {progress : Progress} {element : Element}
    {rest before : List Element} {moved : Moved} (opened : progress.OpenBehind before)
    (taken : step progress element rest = .ok moved) :
    ∃ here, element :: rest = here ++ moved.rest ∧
      moved.progress.OpenBehind (before ++ here) ∧
      ∀ batch ∈ moved.batch, batch.ClosedBy (before ++ element :: rest) element := by
  rcases step_takes taken with ⟨part, split, judged, moves⟩
  refine ⟨part.elements, split, ?_⟩
  cases part with
  | separator separator =>
      rcases List.cons.inj split with ⟨rfl, equal⟩
      rcases moves with ⟨count, -, moves⟩
      cases filled : progress.pending.isEmpty with
      | true =>
          rw [if_pos filled] at moves
          rw [moves.1, moves.2]
          exact ⟨Progress.openBehind_of_isEmpty _ (List.isEmpty_iff.mp filled), by simp⟩
      | false =>
          rw [if_neg (by simp [filled])] at moves
          rw [moves.1, moves.2]
          refine ⟨Progress.openBehind_of_isEmpty _ rfl, ?_⟩
          rintro batch ⟨⟩
          exact opened.closedBy filled judged count rest
  | directive directive literal =>
      rw [moves.1, moves.2]
      exact ⟨opened.skip rfl judged, by simp⟩
  | content content =>
      rw [moves.1, moves.2]
      exact ⟨progress.openBehind_append before content, by simp⟩

end Pass

/-! ## Two whole passes -/

/-- What two passes deliver at the same place differs in its texts alone, and in a
repeat count that is written with a reference. -/
structure Delivery.Alike (elements : List Element) (first second : Delivery) : Prop where
  start : first.batch.start = second.batch.start
  contents : first.batch.pieces.map (·.element) = second.batch.pieces.map (·.element)
  policy : first.continueOnError = second.continueOnError
  count : first.batch.count = second.batch.count ∨
    ∃ separator, first.batch.ClosedBy elements separator ∧ separator.RefersInCount

theorem Moved.Alike.delivery {elements : List Element} {element : Element}
    {first second : Moved} (alike : first.Alike element second)
    (closed : ∀ batch ∈ first.batch, batch.ClosedBy elements element) :
    Option.Rel (Delivery.Alike elements) first.delivery second.delivery := by
  rcases first with ⟨batch, progress, rest⟩
  rcases second with ⟨otherBatch, otherProgress, otherRest⟩
  rcases alike with ⟨progress, rest, batch⟩
  cases batch with
  | none => exact .none
  | some same =>
      rcases same with ⟨start, contents, count⟩
      refine .some ⟨start, contents, progress.policy, ?_⟩
      exact count.imp_right fun refers => ⟨element, closed _ rfl, refers⟩

namespace Parsed

structure EndsAlike (first second : Parsed) : Prop where
  length : first.deliveries.length = second.deliveries.length
  fault : first.fault = second.fault
  policy : first.context.continueOnError = second.context.continueOnError

/-- One pass has failed at a separator that the other one has come past, at a repeat
count that is written with a reference. -/
def FailsFirst (script : List Char) (failing other : Options) (stopped further : Parsed) :
    Prop :=
  ∃ separator behind here there,
    Pass.Arrives script failing here (separator :: behind) ∧
    Pass.Arrives script other there (separator :: behind) ∧
    here.context.RejectsAlone there.context separator ∧
    stopped.fault = some ⟨.separator, separator.position⟩ ∧
    stopped.deliveries.length ≤ further.deliveries.length

theorem FailsFirst.deliver {script : List Char} {failing other : Options}
    {stopped further : Parsed} (fails : FailsFirst script failing other stopped further)
    {one two : Option Delivery} (shorter : one.toList.length ≤ two.toList.length) :
    FailsFirst script failing other (stopped.deliver one) (further.deliver two) := by
  rcases fails with ⟨separator, behind, here, there, arrived, arrivedToo, rejects, fault, length⟩
  refine ⟨separator, behind, here, there, arrived, arrivedToo, rejects, fault, ?_⟩
  rw [deliveries_deliver, deliveries_deliver, List.length_append, List.length_append]
  exact Nat.add_le_add shorter length

/-- Batch by batch the two have delivered the same but for texts and counts, until
they end alike or one of them fails first. -/
structure Alike (script : List Char) (firstOptions secondOptions : Options)
    (first second : Parsed) : Prop where
  deliveries : ∀ pair ∈ first.deliveries.zip second.deliveries,
    pair.1.Alike (Cursor.ofScript script).elements.elements pair.2
  ending : first.EndsAlike second ∨
    FailsFirst script firstOptions secondOptions first second ∨
    FailsFirst script secondOptions firstOptions second first

theorem Alike.deliver {script : List Char} {firstOptions secondOptions : Options}
    {first second : Parsed} (alike : Alike script firstOptions secondOptions first second)
    {one other : Option Delivery}
    (same : Option.Rel (Delivery.Alike (Cursor.ofScript script).elements.elements) one other) :
    Alike script firstOptions secondOptions (first.deliver one) (second.deliver other) := by
  have sameLength : one.toList.length = other.toList.length := by
    cases same <;> rfl
  constructor
  · cases same with
    | none => exact alike.deliveries
    | some same => exact List.forall_mem_cons.mpr ⟨same, alike.deliveries⟩
  · rcases alike.ending with ends | fails | fails
    · refine .inl ⟨?_, ends.fault, ends.policy⟩
      rw [deliveries_deliver, deliveries_deliver, List.length_append, List.length_append,
        sameLength, ends.length]
    · exact .inr (.inl (fails.deliver sameLength.le))
    · exact .inr (.inr (fails.deliver sameLength.ge))

end Parsed

namespace Pass

theorem parse_alike {script : List Char} {firstOptions secondOptions : Options}
    (unterminated : Option Unterminated) (first : Progress) (elements : List Element) :
    ∀ second before, first.Alike second →
      Arrives script firstOptions first elements →
      Arrives script secondOptions second elements →
      (Cursor.ofScript script).elements.elements = before ++ elements →
      first.OpenBehind before →
      Parsed.Alike script firstOptions secondOptions
        (parse ⟨elements, unterminated, first⟩) (parse ⟨elements, unterminated, second⟩) := by
  induction first, elements using induct with
  | atEnd first =>
      intro second before alike _ _ _ _
      rw [parse_nil, parse_nil]
      cases unterminated with
      | some region => exact ⟨by simp, .inl ⟨rfl, rfl, alike.policy⟩⟩
      | none =>
          dsimp only
          rw [alike.isEmpty]
          split
          · exact ⟨by simp, .inl ⟨rfl, rfl, alike.policy⟩⟩
          · have same : (Delivery.mk (first.close 1) first.context.continueOnError).Alike
                (Cursor.ofScript script).elements.elements
                ⟨second.close 1, second.context.continueOnError⟩ :=
              ⟨alike.start_close _ _, alike.contents_close _ _, alike.policy, .inl rfl⟩
            exact ⟨by simpa using same, .inl ⟨rfl, rfl, alike.policy⟩⟩
  | atFault first element rest found taken =>
      intro second before alike arrived arrivedToo _ _
      have agrees := step_agrees alike element rest
      rw [taken] at agrees
      rw [parse_of_step_error _ taken]
      cases takenToo : step second element rest with
      | error other =>
          rw [takenToo] at agrees
          rw [parse_of_step_error _ takenToo]
          cases agrees
          exact ⟨by simp, .inl ⟨rfl, rfl, alike.policy⟩⟩
      | ok other =>
          rw [takenToo] at agrees
          cases agrees with
          | firstRejects rejects =>
              refine ⟨by simp, .inr (.inl ?_)⟩
              exact ⟨element, rest, first, second, arrived, arrivedToo, rejects, rfl,
                Nat.zero_le _⟩
  | before first element rest moved taken induction =>
      intro second before alike arrived arrivedToo scanned opened
      have agrees := step_agrees alike element rest
      rw [taken] at agrees
      cases takenToo : step second element rest with
      | error other =>
          rw [takenToo] at agrees
          rw [parse_of_step_error _ takenToo]
          cases agrees with
          | secondRejects rejects =>
              refine ⟨by simp, .inr (.inr ?_)⟩
              exact ⟨element, rest, second, first, arrivedToo, arrived, rejects, rfl,
                Nat.zero_le _⟩
      | ok other =>
          rw [takenToo] at agrees
          rcases openBehind_of_step opened taken with ⟨here, split, openedNext, closed⟩
          cases agrees with
          | moved same =>
              rw [parse_of_step _ taken, parse_of_step _ takenToo]
              rw [← scanned] at closed
              have arrivedNext := arrivedToo.behind takenToo
              rw [← same.rest] at arrivedNext
              rw [← same.rest]
              have behind := induction other.progress (before ++ here) same.progress
                (arrived.behind taken) arrivedNext (by rw [scanned, split, List.append_assoc])
                openedNext
              exact behind.deliver (same.delivery closed)

end Pass

/-- Whatever the caller's variables are, a script has the same structure. Two runs
over it deliver, batch by batch, the same contents from the same start and under the
same error policy, and their repeat counts differ only where a reference stands for
one. They end alike, unless one of them fails before the other at such a count. -/
theorem structure_independent_of_variables (script : List Char) (mode : Mode)
    (continueOnError : Bool) (firstBindings secondBindings : Bindings) :
    let firstOptions : Options := ⟨mode, firstBindings, continueOnError⟩
    let secondOptions : Options := ⟨mode, secondBindings, continueOnError⟩
    let first := parseScript script firstOptions
    let second := parseScript script secondOptions
    (∀ pair ∈ first.deliveries.zip second.deliveries,
        pair.1.Alike (Cursor.ofScript script).elements.elements pair.2) ∧
      (first.EndsAlike second ∨
        Parsed.FailsFirst script firstOptions secondOptions first second ∨
        Parsed.FailsFirst script secondOptions firstOptions second first) := by
  intro firstOptions secondOptions first second
  have alike : (Progress.ofContext (.ofOptions firstOptions)).Alike
      (.ofContext (.ofOptions secondOptions)) := ⟨rfl, rfl, rfl, rfl⟩
  have whole := Pass.parse_alike (Cursor.ofScript script).elements.unterminated
    (.ofContext (.ofOptions firstOptions)) (Cursor.ofScript script).elements.elements
    (.ofContext (.ofOptions secondOptions)) [] alike .atStart .atStart rfl
    (Progress.openBehind_of_isEmpty [] rfl)
  exact ⟨whole.deliveries, whole.ending⟩

/-- A count can be wrong by the value of its variable alone. -/
example :
    (parseScript "GO $(n)".toList { bindings := .ofList [("n".toList, "2".toList)] }).fault =
        none ∧
      (parseScript "GO $(n)".toList { bindings := .ofList [("n".toList, "x".toList)] }).fault =
        some ⟨.separator, .start⟩ := by
  decide +kernel

end Batchwise
