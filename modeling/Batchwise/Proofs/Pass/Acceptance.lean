import Batchwise.Proofs.Element.Unterminated
import Batchwise.Proofs.Pass.Construct

namespace Batchwise

/-! Which scripts are rejected, and where. A script is read up to its first malformed
construct; a region that never closes stands behind all constructs. -/

def WellFormed (context : Context) (parts : List Part) : Prop :=
  ∀ front part back, parts = front ++ part :: back →
    part.malformation? (context.pastAll front) = none

/-- The first thing that is wrong with a script: everything in front of it is well
formed. -/
inductive FirstFault (context : Context) (parts : List Part)
    (unterminated : Option Unterminated) : Fault → Prop
  | construct {front back : List Part} {part : Part} {malformation : Malformation}
      (split : parts = front ++ part :: back) (accepted : WellFormed context front)
      (malformed : part.malformation? (context.pastAll front) = some malformation) :
      FirstFault context parts unterminated ⟨malformation, part.head.position⟩
  | region {region : Unterminated} (accepted : WellFormed context parts)
      (neverCloses : unterminated = some region) :
      FirstFault context parts unterminated region.fault

variable {context : Context} {part : Part} {rest : List Part}
  {unterminated : Option Unterminated}

theorem wellFormed_nil (context : Context) : WellFormed context [] := by
  intro front part back split
  simp at split

theorem wellFormed_cons :
    WellFormed context (part :: rest) ↔
      part.malformation? context = none ∧ WellFormed (context.past part) rest := by
  constructor
  · intro wellFormed
    refine ⟨wellFormed [] part rest rfl, ?_⟩
    intro front other back split
    exact wellFormed (part :: front) other back (congrArg _ split)
  · rintro ⟨accepted, wellFormed⟩ front other back split
    cases front with
    | nil =>
        cases split
        exact accepted
    | cons first front =>
        rcases List.cons.inj split with ⟨rfl, behind⟩
        exact wellFormed front other back behind

theorem firstFault_nil {fault : Fault} :
    FirstFault context [] unterminated fault ↔
      unterminated.map Unterminated.fault = some fault := by
  rw [Option.map_eq_some_iff]
  constructor
  · intro first
    cases first with
    | construct split => simp at split
    | region _ neverCloses => exact ⟨_, neverCloses, rfl⟩
  · rintro ⟨region, neverCloses, rfl⟩
    exact .region (wellFormed_nil context) neverCloses

theorem firstFault_of_malformed {fault : Fault} {malformation : Malformation}
    (malformed : part.malformation? context = some malformation) :
    FirstFault context (part :: rest) unterminated fault ↔
      (⟨malformation, part.head.position⟩ : Fault) = fault := by
  constructor
  · intro first
    cases first with
    | @construct front back other found split accepted found' =>
        cases front with
        | nil =>
            cases split
            cases malformed.symm.trans found'
            rfl
        | cons head front =>
            rcases List.cons.inj split with ⟨rfl, -⟩
            cases malformed.symm.trans (wellFormed_cons.mp accepted).1
    | region accepted =>
        cases malformed.symm.trans (wellFormed_cons.mp accepted).1
  · rintro rfl
    exact .construct (List.nil_append _).symm (wellFormed_nil context) malformed

theorem firstFault_of_accepted {fault : Fault} (accepted : part.malformation? context = none) :
    FirstFault context (part :: rest) unterminated fault ↔
      FirstFault (context.past part) rest unterminated fault := by
  constructor
  · intro first
    cases first with
    | @construct front back other found split wellFormed malformed =>
        cases front with
        | nil =>
            cases split
            cases accepted.symm.trans malformed
        | cons head front =>
            rcases List.cons.inj split with ⟨rfl, behind⟩
            exact .construct behind (wellFormed_cons.mp wellFormed).2 malformed
    | region wellFormed neverCloses =>
        exact .region (wellFormed_cons.mp wellFormed).2 neverCloses
  · intro first
    cases first with
    | @construct front back other found split wellFormed malformed =>
        exact .construct (congrArg (part :: ·) split)
          (wellFormed_cons.mpr ⟨accepted, wellFormed⟩) malformed
    | region wellFormed neverCloses =>
        exact .region (wellFormed_cons.mpr ⟨accepted, wellFormed⟩) neverCloses

theorem fault_parsedFrom_nil (unterminated : Option Unterminated) (progress : Progress) :
    (parsedFrom unterminated progress []).fault = unterminated.map Unterminated.fault := by
  rw [parsedFrom, Pass.parse_nil]
  cases unterminated with
  | some region => rfl
  | none =>
      dsimp only
      split <;> rfl

theorem fault_parsedFrom_iff (unterminated : Option Unterminated) (progress : Progress)
    (parts : List Part) (fault : Fault) :
    (parsedFrom unterminated progress parts).fault = some fault ↔
      FirstFault progress.context parts unterminated fault := by
  induction parts generalizing progress with
  | nil => rw [fault_parsedFrom_nil, firstFault_nil]
  | cons part rest induction =>
      rw [parsedFrom]
      cases judged : part.malformation? progress.context with
      | some malformation =>
          rw [firstFault_of_malformed judged]
          exact Option.some_inj
      | none =>
          rw [firstFault_of_accepted judged, ← Progress.context_past]
          exact induction (progress.past part)

theorem fault_parsedFrom_eq_none_iff (unterminated : Option Unterminated)
    (progress : Progress) (parts : List Part) :
    (parsedFrom unterminated progress parts).fault = none ↔
      WellFormed progress.context parts ∧ unterminated = none := by
  induction parts generalizing progress with
  | nil =>
      rw [fault_parsedFrom_nil, Option.map_eq_none_iff]
      exact (and_iff_right (wellFormed_nil _)).symm
  | cons part rest induction =>
      rw [parsedFrom, wellFormed_cons]
      cases judged : part.malformation? progress.context with
      | some malformation => simp
      | none =>
          rw [← Progress.context_past]
          simpa using induction (progress.past part)

/-- Reading a script fails exactly if one of its constructs is malformed or if it has a
region that never closes. The first of these is the error, and it is told with its line
and column. -/
theorem parse_fails_at_first_malformation (script : List Char) (options : Options) :
    let read := (Cursor.ofScript script).elements
    let parts := constructs options.mode.isScripting read.elements
    let parsed := parseScript script options
    Scans script .start read.elements read.unterminated ∧
      parts.flatMap Part.elements = read.elements ∧
      (∀ fault, parsed.fault = some fault ↔
        FirstFault (.ofOptions options) parts read.unterminated fault) ∧
      (parsed.fault = none ↔
        WellFormed (.ofOptions options) parts ∧ read.unterminated = none) ∧
      parsed.fault.map Fault.toError = parsed.fault.map fun fault =>
        .malformed (some fault.position.line) (some fault.position.column)
          fault.malformation.message := by
  intro read parts parsed
  have constructed : parsed =
      parsedFrom read.unterminated (.ofContext (.ofOptions options)) parts :=
    Pass.parse_constructs _ _ _ (Cursor.announces_elements _)
  refine ⟨Cursor.scans_elements (.ofScript script), elements_constructs _ _, ?_, ?_, rfl⟩
  · intro fault
    rw [constructed]
    exact fault_parsedFrom_iff _ _ _ _
  · rw [constructed]
    exact fault_parsedFrom_eq_none_iff _ _ _

end Batchwise
