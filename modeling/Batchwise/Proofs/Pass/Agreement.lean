import Batchwise.Proofs.Pass.Assembly
import Batchwise.Proofs.Pass.Policy

namespace Batchwise

/-! Two passes over the same constructs that start with different variables. As long as
each construct is read alike in both, the passes do the same, however different the rest
of what they know may be. -/

def Part.ReadsAlike (first second : Context) : Part → Prop
  | separator element => first.separatorCount element = second.separatorCount element
  | directive .. => True
  | content element => element.textIn first = element.textIn second

def ReadAlike (first second : Context) (parts : List Part) : Prop :=
  ∀ front part back, parts = front ++ part :: back →
    part.ReadsAlike (first.pastAll front) (second.pastAll front)

theorem ReadAlike.behind {first second : Context} {part : Part} {rest : List Part}
    (alike : ReadAlike first second (part :: rest)) :
    ReadAlike (first.past part) (second.past part) rest := by
  intro front other back split
  exact alike (part :: front) other back (congrArg (part :: ·) split)

structure Progress.Concurs (first second : Progress) : Prop where
  pending : first.pending = second.pending
  start : first.start = second.start
  policy : first.context.continueOnError = second.context.continueOnError

structure Parsed.Concurs (first second : Context) (parts : List Part) (one other : Parsed) :
    Prop where
  deliveries : one.deliveries = other.deliveries
  fault : one.fault = other.fault
  contexts : ∃ front, front <+: parts ∧ one.context = first.pastAll front ∧
    other.context = second.pastAll front

section Step

variable {part : Part}

theorem malformation?_congr {first second : Context} (alike : part.ReadsAlike first second) :
    part.malformation? first = part.malformation? second := by
  cases part with
  | separator element =>
      have counted : first.separatorCount element = second.separatorCount element := alike
      rw [Part.malformation?, Part.malformation?, counted]
  | directive | content => rfl

namespace Progress.Concurs

variable {first second : Progress}

theorem close (concurs : first.Concurs second) (count : Int) :
    first.close count = second.close count := by
  rw [Progress.close, Progress.close, concurs.pending, concurs.start]

theorem closed? (concurs : first.Concurs second)
    (alike : part.ReadsAlike first.context second.context) :
    first.closed? part = second.closed? part := by
  cases part with
  | separator element =>
      have counted : first.context.separatorCount element =
          second.context.separatorCount element := alike
      have closes : first.close = second.close := funext concurs.close
      simp only [Progress.closed?, malformation?_congr alike]
      cases (Part.separator element).malformation? second.context with
      | some malformation => rfl
      | none =>
          dsimp only
          rw [counted, concurs.pending, closes]
  | directive | content => rfl

theorem past (concurs : first.Concurs second)
    (alike : part.ReadsAlike first.context second.context) :
    (first.past part).Concurs (second.past part) := by
  have policy : (first.past part).context.continueOnError =
      (second.past part).context.continueOnError := by
    rw [context_past, context_past, continueOnError_past, continueOnError_past,
      concurs.policy]
  have judged := malformation?_congr alike
  cases accepted : part.malformation? second.context with
  | some malformation =>
      simp only [Progress.past, judged, accepted]
      exact concurs
  | none =>
      simp only [Progress.past, judged, accepted] at policy ⊢
      cases part with
      | separator element =>
          dsimp only
          rw [← concurs.pending]
          split
          · exact concurs
          · exact ⟨rfl, rfl, concurs.policy⟩
      | directive element literal => exact ⟨concurs.pending, concurs.start, policy⟩
      | content element =>
          have text : element.textIn first.context = element.textIn second.context := alike
          refine ⟨?_, ?_, policy⟩
          · rw [pending_append, pending_append, text, concurs.pending]
          · exact congrArg (fun start => some (start.getD element.position)) concurs.start

end Progress.Concurs

end Step

theorem parsedFrom_concurs (unterminated : Option Unterminated) (parts : List Part) :
    ∀ first second : Progress, first.Concurs second →
      ReadAlike first.context second.context parts →
      Parsed.Concurs first.context second.context parts
        (parsedFrom unterminated first parts) (parsedFrom unterminated second parts) := by
  induction parts with
  | nil =>
      intro first second concurs _
      rw [parsedFrom, parsedFrom, Pass.parse_nil, Pass.parse_nil]
      cases unterminated with
      | some region => exact ⟨rfl, rfl, [], List.nil_prefix, rfl, rfl⟩
      | none =>
          dsimp only
          rw [concurs.pending, concurs.close, concurs.policy]
          split <;> exact ⟨rfl, rfl, [], List.nil_prefix, rfl, rfl⟩
  | cons part rest induction =>
      intro first second concurs alike
      have here : part.ReadsAlike first.context second.context := alike [] part rest rfl
      have past := concurs.past here
      rw [parsedFrom, parsedFrom, malformation?_congr here, concurs.closed? here, past.policy]
      cases part.malformation? second.context with
      | some malformation => exact ⟨rfl, rfl, [], List.nil_prefix, rfl, rfl⟩
      | none =>
          have alikeBehind := alike.behind
          rw [← Progress.context_past, ← Progress.context_past] at alikeBehind
          rcases induction _ _ past alikeBehind with
            ⟨deliveries, fault, front, isPrefix, firstContext, secondContext⟩
          refine ⟨?_, fault, part :: front, List.cons_prefix_cons.mpr ⟨rfl, isPrefix⟩, ?_, ?_⟩
          · rw [Parsed.deliveries_deliver, Parsed.deliveries_deliver, deliveries]
          · rw [Progress.context_past] at firstContext
            exact firstContext
          · rw [Progress.context_past] at secondContext
            exact secondContext

end Batchwise
