import Batchwise.Proofs.Element.Unterminated
import Batchwise.Proofs.Pass.Assembly
import Batchwise.Proofs.Pass.Construct
import Batchwise.Proofs.Pass.LineStart

namespace Batchwise

/-! A pass that is asked on behind its faults. Each request goes on at the construct
where the last one has stopped, and a fault has taken nothing but its own construct. -/

namespace Answer

def text : Answer → List Char
  | batch closed => closed.text
  | fault _ | cancelled | finished => []

end Answer

namespace Pass

def asked : Nat → Pass → Pass
  | 0, pass => pass
  | times + 1, pass => asked times (pass.nextBatch false).2

def answers : Nat → Pass → List Answer
  | 0, _ => []
  | times + 1, pass => (pass.nextBatch false).1 :: answers times (pass.nextBatch false).2

end Pass

/-! ## What the constructs of a script are answered -/

def Progress.answer? (progress : Progress) (part : Part) : Option Answer :=
  match part.malformation? progress.context with
  | some malformation => some (.fault ⟨malformation, part.head.position⟩)
  | none => (progress.closed? part).map .batch

/-- The answers that constructs give, and behind them the region that never closes and
the batch that is still open. -/
def answersFrom (unterminated : Option Unterminated) : Progress → List Part → List Answer
  | progress, [] =>
    (unterminated.map fun region => Answer.fault region.fault).toList ++
      if progress.pending.isEmpty then [] else [.batch (progress.close 1)]
  | progress, part :: rest =>
    (progress.answer? part).toList ++ answersFrom unterminated (progress.past part) rest

/-- The contents of constructs, each expanded in the context that it is met in. -/
def contentFrom : Context → List Part → List Char
  | _, [] => []
  | context, part :: rest =>
    part.content?.toList.flatMap (·.textIn context) ++ contentFrom (context.past part) rest

def Progress.openText (progress : Progress) : List Char :=
  progress.pending.reverse.flatMap (·.text)

namespace Progress

variable (progress : Progress) (part : Part)

theorem past_of_malformed {malformation : Malformation}
    (malformed : part.malformation? progress.context = some malformation) :
    progress.past part = progress := by
  cases part <;> simp only [past, malformed]

theorem openBatches_past :
    (progress.answer? part).toList.length + Pass.openBatches (progress.past part) ≤
      1 + Pass.openBatches progress := by
  rw [answer?]
  cases judged : part.malformation? progress.context with
  | some malformation =>
      rw [past_of_malformed progress part judged]
      exact Nat.le_refl _
  | none =>
      cases part with
      | separator element =>
          simp only [closed?, past, judged]
          cases nothing : progress.pending.isEmpty with
          | true => exact Nat.add_le_add_right (Nat.zero_le 1) _
          | false => cases progress.context.separatorCount element <;> simp
      | directive element literal =>
          simp only [closed?, past, judged]
          exact Nat.add_le_add_right (Nat.zero_le 1) _
      | content element =>
          simp only [closed?, past, judged, Pass.openBatches_append]
          exact Nat.le_add_right _ _

theorem openText_append (element : Element) :
    (progress.append element).openText =
      progress.openText ++ element.textIn progress.context := by
  simp [openText, pending_append]

theorem openText_past :
    (progress.answer? part).toList.flatMap Answer.text ++ (progress.past part).openText =
      progress.openText ++ part.content?.toList.flatMap (·.textIn progress.context) := by
  rw [answer?]
  cases judged : part.malformation? progress.context with
  | some malformation =>
      rw [past_of_malformed progress part judged]
      cases part with
      | separator | directive => simp [Answer.text, Part.content?]
      | content => cases judged
  | none =>
      cases part with
      | separator element =>
          simp only [closed?, past, judged, Part.content?]
          cases nothing : progress.pending.isEmpty with
          | true => simp
          | false =>
              rcases Part.count_of_accepted judged with ⟨count, counted⟩
              simp [counted, Answer.text, close, clear, openText, Batch.text]
      | directive element literal => simp [closed?, past, judged, Part.content?, openText]
      | content element =>
          simp only [closed?, past, judged, openText_append, Part.content?]
          simp

/-- An assignment whose value is missing at the end of the script changes nothing. -/
theorem past_of_assignsLiteral {element : Element} (assigns : element.assignsLiteral = true) :
    progress.past (.directive element none) = progress := by
  rcases Element.assignsLiteral_iff.mp assigns with ⟨command, name, split, -, -⟩
  simp [past, Part.malformation?, Element.directs, assigns, Context.direct, split]

end Progress

/-! ## Where a pass stands -/

/-- A fault has taken its own construct, which is a malformed element or the region
that never closes. All the rest is as the constructs in front of it leave it. -/
inductive Discards (start : Progress) (read : Elements) (parts : List Part) :
    Fault → Pass → Prop
  | construct {front back : List Part} {part : Part} {malformation : Malformation}
      (split : parts = front ++ part :: back) (single : part.elements = [part.head])
      (malformed : part.malformation? (start.pastAll front).context = some malformation) :
      Discards start read parts ⟨malformation, part.head.position⟩
        ⟨back.flatMap Part.elements, read.unterminated, start.pastAll front⟩
  | region {region : Unterminated} (neverCloses : read.unterminated = some region) :
      Discards start read parts region.fault ⟨[], none, start.pastAll parts⟩

/-- A pass stands somewhere in its script, and these answers are left. -/
inductive Stands (start : Progress) (read : Elements) (parts : List Part) :
    List Answer → Pass → Prop
  | inside {front : List Part} {elements : List Element}
      (split : parts =
        front ++ constructs start.context.mode.isScripting elements)
      (chain : List.IsChain Element.Announces elements) :
      Stands start read parts
        (answersFrom read.unterminated (start.pastAll front)
          (constructs start.context.mode.isScripting elements))
        ⟨elements, read.unterminated, start.pastAll front⟩
  | behindRegion :
      Stands start read parts (answersFrom none (start.pastAll parts) [])
        ⟨[], none, start.pastAll parts⟩
  | behindAll (context : Context) : Stands start read parts [] ⟨[], none, .ofContext context⟩

structure Resumes (start : Progress) (read : Elements) (parts : List Part)
    (given : List Answer) (asked : Answer × Pass) : Prop where
  answer : asked.1 = given.headD .finished
  stands : Stands start read parts given.tail asked.2
  discards : ∀ fault, asked.1 = .fault fault → Discards start read parts fault asked.2

section Request

variable {start : Progress} {read : Elements} {parts : List Part}

theorem resumes_finish :
    Resumes start read parts (answersFrom none (start.pastAll parts) [])
      (Pass.finish none (start.pastAll parts)) := by
  have behind : Stands start read parts _ _ := .behindRegion
  rw [answersFrom] at behind ⊢
  rw [Pass.finish]
  cases nothing : (start.pastAll parts).pending.isEmpty with
  | true =>
      rw [nothing] at behind
      exact ⟨rfl, behind, by simp⟩
  | false => exact ⟨rfl, .behindAll _, by simp⟩

theorem Stands.past {front : List Part} {part : Part} {rest : List Element}
    (split : parts = front ++ part :: constructs start.context.mode.isScripting rest)
    (chain : List.IsChain Element.Announces rest) :
    Stands start read parts
      (answersFrom read.unterminated ((start.pastAll front).past part)
        (constructs start.context.mode.isScripting rest))
      ⟨rest, read.unterminated, (start.pastAll front).past part⟩ := by
  rw [← Progress.pastAll_concat]
  exact .inside (split.trans (List.append_cons _ _ _)) chain

/-- Inside of a script, taking elements up to an answer gives the first one that is left.
The induction is over the steps of the pass, and `front` are the constructs behind it. -/
theorem resumes_advance (progress : Progress) (elements : List Element) :
    ∀ front, progress = start.pastAll front →
      parts = front ++ constructs start.context.mode.isScripting elements →
      List.IsChain Element.Announces elements →
      Resumes start read parts
        (answersFrom read.unterminated progress
          (constructs start.context.mode.isScripting elements))
        (Pass.advance read.unterminated progress elements) := by
  induction progress, elements using Pass.induct with
  | atEnd progress =>
      intro front here split chain
      rw [constructs, List.append_nil] at split
      subst here split
      rw [constructs, Pass.advance]
      cases neverCloses : read.unterminated with
      | none => exact resumes_finish
      | some region =>
          refine ⟨rfl, .behindRegion, ?_⟩
          intro fault equal
          cases equal
          exact .region neverCloses
  | atFault progress element rest found taken =>
      intro front here split chain
      rcases Pass.construct_of_fault chain taken with
        ⟨part, parted, single, head, fault, malformed⟩
      have mode : progress.context.mode = start.context.mode := by
        rw [here, Progress.mode_pastAll]
      rw [mode] at parted
      rw [parted] at split ⊢
      have answered : Pass.advance read.unterminated progress (element :: rest) =
          (.fault ⟨found.1.malformation, part.head.position⟩,
            ⟨rest, read.unterminated, progress⟩) := by
        rw [Pass.advance_cons, taken, fault, head]
      have behind : Stands start read parts _ _ :=
        Stands.past split (List.isChain_cons.mp chain).2
      rw [← here, Progress.past_of_malformed progress part malformed] at behind
      rw [answered, answersFrom, Progress.answer?, malformed,
        Progress.past_of_malformed progress part malformed]
      refine ⟨rfl, behind, ?_⟩
      intro told equal
      cases equal
      rw [here] at malformed ⊢
      have discards : Discards start read parts _ _ :=
        .construct split (single.trans (by rw [head])) malformed
      rwa [elements_constructs] at discards
  | before progress element rest moved taken induction =>
      intro front here split chain
      rcases Pass.construct_of_step chain taken with ⟨part, parted, accepted, next, closed⟩
      have mode : progress.context.mode = start.context.mode := by
        rw [here, Progress.mode_pastAll]
      rw [mode] at parted
      have chainBehind : List.IsChain Element.Announces moved.rest := by
        rw [eq_append_of_constructs parted] at chain
        exact chain.suffix (List.suffix_append _ _)
      rw [parted] at split ⊢
      have concat := split.trans (List.append_cons _ _ _)
      rw [answersFrom, Progress.answer?, accepted, ← closed, ← next, Pass.advance_cons, taken]
      rcases moved with ⟨batch, behind, left⟩
      cases batch with
      | none =>
          refine induction (front ++ [part]) ?_ concat chainBehind
          rw [Progress.pastAll_concat, ← here]
          exact next
      | some batch =>
          have stands : Stands start read parts _ _ := Stands.past split chainBehind
          rw [← here, ← next] at stands
          exact ⟨rfl, stands, by simp⟩

theorem Stands.resumes {given : List Answer} {pass : Pass}
    (stands : Stands start read parts given pass) :
    Resumes start read parts given (pass.nextBatch false) := by
  cases stands with
  | inside split chain => exact resumes_advance _ _ _ rfl split chain
  | behindRegion => exact resumes_finish
  | behindAll context =>
      have finished : Pass.nextBatch ⟨[], none, .ofContext context⟩ false =
          (.finished, ⟨[], none, .ofContext context⟩) := rfl
      rw [finished]
      exact ⟨rfl, .behindAll context, by simp⟩

theorem Stands.asked {given : List Answer} {pass : Pass}
    (stands : Stands start read parts given pass) (times : Nat) :
    Stands start read parts (given.drop times) (pass.asked times) := by
  induction times generalizing given pass with
  | zero => exact stands
  | succ times induction =>
      have behind := induction stands.resumes.stands
      rwa [List.drop_tail] at behind

theorem Stands.answers {given : List Answer} {pass : Pass}
    (stands : Stands start read parts given pass) (times : Nat) :
    pass.answers times = given.takeD times .finished := by
  induction times generalizing given pass with
  | zero => rfl
  | succ times induction =>
      rw [Pass.answers, induction stands.resumes.stands, stands.resumes.answer]
      rfl

end Request

/-! ## How many answers there are, and what they make up -/

theorem length_answersFrom (unterminated : Option Unterminated) (progress : Progress)
    (parts : List Part) :
    (answersFrom unterminated progress parts).length ≤
      parts.length + unterminated.toList.length + Pass.openBatches progress := by
  induction parts generalizing progress with
  | nil =>
      rw [answersFrom, Pass.openBatches]
      cases unterminated <;> cases progress.pending.isEmpty <;> simp
  | cons part rest induction =>
      have first := progress.openBatches_past part
      have behind := induction (progress.past part)
      rw [answersFrom, List.length_append, List.length_cons]
      omega

theorem text_answersFrom (unterminated : Option Unterminated) (progress : Progress)
    (parts : List Part) :
    (answersFrom unterminated progress parts).flatMap Answer.text =
      progress.openText ++ contentFrom progress.context parts := by
  induction parts generalizing progress with
  | nil =>
      have region : (unterminated.map fun region =>
          Answer.fault region.fault).toList.flatMap Answer.text = [] := by
        cases unterminated <;> rfl
      rw [answersFrom, contentFrom, List.append_nil, List.flatMap_append, region,
        List.nil_append, Progress.openText]
      cases nothing : progress.pending.isEmpty with
      | true =>
          rw [List.isEmpty_iff.mp nothing]
          rfl
      | false => exact List.flatMap_singleton _ _
  | cons part rest induction =>
      rw [answersFrom, List.flatMap_append, induction, ← List.append_assoc,
        progress.openText_past, contentFrom, Progress.context_past, List.append_assoc]

theorem batch_or_fault_of_mem (unterminated : Option Unterminated) (progress : Progress)
    (parts : List Part) {answer : Answer}
    (member : answer ∈ answersFrom unterminated progress parts) :
    (∃ batch, answer = .batch batch) ∨ ∃ fault, answer = .fault fault := by
  induction parts generalizing progress with
  | nil =>
      rw [answersFrom] at member
      rcases List.mem_append.mp member with region | last
      · cases unterminated with
        | none => cases region
        | some found => exact .inr ⟨_, List.mem_singleton.mp region⟩
      · split at last
        · cases last
        · exact .inl ⟨_, List.mem_singleton.mp last⟩
  | cons part rest induction =>
      rcases List.mem_append.mp member with own | behind
      · rw [Option.mem_toList, Progress.answer?] at own
        split at own
        · exact .inr ⟨_, (Option.some.inj own).symm⟩
        · rcases Option.map_eq_some_iff.mp own with ⟨batch, -, equal⟩
          exact .inl ⟨batch, equal.symm⟩
      · exact induction (progress.past part) behind

theorem length_le_of_elements (parts : List Part) :
    parts.length ≤ (parts.flatMap Part.elements).length := by
  induction parts with
  | nil => exact Nat.le_refl _
  | cons part rest induction =>
      have positive : 1 ≤ part.elements.length := by
        cases part <;> simp [Part.elements]
      rw [List.flatMap_cons, List.length_append, List.length_cons]
      omega

/-- Asking on behind faults loses nothing and comes to an end. There are no more answers
than the script has characters, and then there are no more batches for ever. The
batches make up all the contents of the script, each expanded in the context that it is
met in; a fault takes its own construct out and changes nothing else. An assignment that
takes a literal always stands in front of one, which may be the region that never
closes; then the assignment changes nothing. -/
theorem requests_resume_behind_faults (script : List Char) (context : Context) :
    let read := (Cursor.ofScript script).elements
    let parts := constructs context.mode.isScripting read.elements
    let start := Progress.ofContext context
    let pass := Pass.ofScript script context
    let given := answersFrom read.unterminated start parts
    (∀ times, pass.answers times = given.takeD times .finished) ∧
      (∀ answer ∈ given,
        (∃ batch, answer = .batch batch) ∨ ∃ fault, answer = .fault fault) ∧
      given.length ≤ script.length ∧
      given.flatMap Answer.text = contentFrom context parts ∧
      (∀ times fault, ((pass.asked times).nextBatch false).1 = .fault fault →
        Discards start read parts fault ((pass.asked times).nextBatch false).2) ∧
      (∀ front element rest name, read.elements = front ++ element :: rest →
        Line.read context.mode.isScripting element = .ok (.assignLiteral name) →
        Scans.Follows (.literal .double) rest read.unterminated) ∧
      ∀ front element, parts = front ++ [.directive element none] →
        element.assignsLiteral = true → start.pastAll parts = start.pastAll front := by
  intro read parts start pass given
  have stands : Stands start read parts given pass :=
    .inside (List.nil_append _).symm (Cursor.announces_elements _)
  have scans : Scans script .start read.elements read.unterminated :=
    Cursor.scans_elements (.ofScript script)
  refine ⟨stands.answers, fun answer => batch_or_fault_of_mem _ _ _, ?_, ?_, ?_, ?_, ?_⟩
  · have few : given.length ≤ _ := length_answersFrom read.unterminated start parts
    have fewParts := length_le_of_elements parts
    have fewElements := scans.length_le
    rw [elements_constructs] at fewParts
    have nothingOpen : Pass.openBatches start = 0 := rfl
    omega
  · exact text_answersFrom _ _ _
  · intro times fault
    exact (stands.asked times).resumes.discards fault
  · intro front element rest name split assigns
    exact scans.follows_of_ending split (Line.ending_of_read assigns)
  · intro front element split assigns
    rw [split, Progress.pastAll_concat, Progress.past_of_assignsLiteral _ assigns]

/-- The literal behind a malformed assignment goes into the batch that is open. -/
example :
    ((Pass.ofScript "a\nGO x\n:SETVAR b\n\"c\"/*".toList (.ofOptions {})).answers 5).map
      Answer.text = [[], [], [], "a\n\"c\"".toList, []] := by decide +kernel

end Batchwise
