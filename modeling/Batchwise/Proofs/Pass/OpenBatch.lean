import Batchwise.Proofs.Element.Tape
import Batchwise.Proofs.Pass.LineStart
import Batchwise.Proofs.Pass.Session
import Batchwise.Proofs.Text.Words

namespace Batchwise

/-! The open batch and its start, in the middle of requests as well as between them. The start
is that of the first element that is open, and nothing is known of a start where nothing is
open. Batches start further and further down their script: between two of them there is a
separator, and no separator is written with carriage returns alone. -/

namespace Position

def Precedes (first second : Position) : Prop :=
  first.line < second.line ∨ first.line = second.line ∧ first.column < second.column

theorem Precedes.trans {first second third : Position} (left : first.Precedes second)
    (right : second.Precedes third) : first.Precedes third := by
  unfold Precedes at *
  omega

variable (position : Position)

theorem precedes_step {character : Char} (moves : character ≠ '\r') :
    position.Precedes (position.step character) := by
  rw [step, if_neg moves]
  split
  · exact .inl (Nat.lt_succ_self _)
  · exact .inr ⟨rfl, Nat.lt_succ_self _⟩

theorem after_eq_or_precedes (text : List Char) :
    position.after text = position ∨ position.Precedes (position.after text) := by
  induction text generalizing position with
  | nil => exact .inl rfl
  | cons character rest induction =>
      rw [after_cons]
      by_cases returns : character = '\r'
      · subst returns
        exact induction position
      · have first := position.precedes_step returns
        rcases induction (position.step character) with stays | further
        · rw [stays]
          exact .inr first
        · exact .inr (first.trans further)

theorem precedes_after {text : List Char} {character : Char} (member : character ∈ text)
    (moves : character ≠ '\r') : position.Precedes (position.after text) := by
  rcases List.append_of_mem member with ⟨front, back, rfl⟩
  rw [after_append, after_cons]
  have here := (position.after front).precedes_step moves
  have behind : position.Precedes ((position.after front).step character) := by
    rcases position.after_eq_or_precedes front with stays | further
    · rwa [stays] at here ⊢
    · exact further.trans here
  rcases ((position.after front).step character).after_eq_or_precedes back with stays | further
  · rwa [stays]
  · exact behind.trans further

end Position

/-! ## Places of elements -/

def Element.StandsBehind (element : Element) (script front : List Char) : Prop :=
  element.position = .behind front ∧ ∃ rest, script = front ++ element.text ++ rest

def Element.ComesBefore (first second : Element) : Prop :=
  ∃ between, second.position = first.position.after (first.text ++ between)

namespace Scans

variable {script : List Char} {start : Position} {elements : List Element}
  {unterminated : Option Unterminated}

theorem place (scans : Scans script start elements unterminated) {front back : List Element}
    {element : Element} (split : elements = front ++ element :: back) :
    element.position = start.after (sourceOf front) ∧
      ∃ rest, script = sourceOf front ++ element.text ++ rest := by
  induction scans generalizing front with
  | finished | stuck => simp at split
  | @read first rest _ _ nonempty fits behind induction =>
      cases front with
      | nil =>
          cases split
          exact ⟨rfl, rest, rfl⟩
      | cons other front =>
          rcases List.cons.inj split with ⟨rfl, following⟩
          rcases induction following with ⟨position, left, rfl⟩
          refine ⟨?_, left, ?_⟩
          · rw [position, sourceOf_cons, Position.after_append]
          · rw [sourceOf_cons, List.append_assoc, List.append_assoc, List.append_assoc]

theorem inOrder (scans : Scans script start elements unterminated) :
    elements.Pairwise Element.ComesBefore := by
  induction scans with
  | finished | stuck => exact .nil
  | @read first rest following _ nonempty fits behind induction =>
      refine .cons ?_ induction
      intro element member
      rcases List.append_of_mem member with ⟨front, back, split⟩
      refine ⟨sourceOf front, ?_⟩
      rw [(behind.place split).1, Position.after_append]

end Scans

theorem standsBehind_of_mem {script : List Char} {element : Element}
    (member : element ∈ (Cursor.ofScript script).elements.elements) :
    ∃ front, element.StandsBehind script front := by
  rcases List.append_of_mem member with ⟨front, back, split⟩
  rcases (Cursor.scans_elements (.ofScript script)).place split with ⟨position, whole⟩
  exact ⟨sourceOf front, position.trans (Position.after_start _), whole⟩

theorem exists_visible_of_isSeparator {element : Element}
    (separates : element.isSeparator = true) :
    ∃ character ∈ element.text, isBlank character = false := by
  by_contra nothing
  have blank : ∀ character ∈ element.text, isBlank character = true := by
    intro character member
    by_contra visible
    exact nothing ⟨character, member, Bool.eq_false_iff.mpr visible⟩
  have noWords : words element.text = [] := by
    generalize element.text = text at blank
    induction text with
    | nil => rfl
    | cons character rest induction =>
        rcases List.forall_mem_cons.mp blank with ⟨first, behind⟩
        rw [words_of_blank first, induction behind]
  rw [Element.isSeparator, Line.firstWord?_of_no_words noWords] at separates
  cases separates

theorem Element.ComesBefore.precedes {first separator last : Element}
    (before : first.ComesBefore separator) (behind : separator.ComesBefore last)
    (separates : separator.isSeparator = true) : first.position.Precedes last.position := by
  rcases before with ⟨between, place⟩
  rcases behind with ⟨more, placeLast⟩
  rcases exists_visible_of_isSeparator separates with ⟨character, member, visible⟩
  have moves : character ≠ '\r' := by
    rintro rfl
    cases visible
  rw [placeLast, place, ← Position.after_append]
  exact first.position.precedes_after
    (List.mem_append_right _ (List.mem_append_left _ member)) moves

/-! ## One move of a pass -/

namespace Pass

/-- All that a pass can do at once, with the batch that is closed by it. -/
inductive Goes : Pass → Option Batch → Pass → Prop
  | take {progress : Progress} {element : Element} {rest : List Element}
      {unterminated : Option Unterminated} {moved : Moved}
      (taken : step progress element rest = .ok moved) :
      Goes ⟨element :: rest, unterminated, progress⟩ moved.batch
        ⟨moved.rest, unterminated, moved.progress⟩
  | fault {progress : Progress} {element : Element} {rest left : List Element}
      {unterminated : Option Unterminated} {fault : Fault}
      (taken : step progress element rest = .error (fault, left)) :
      Goes ⟨element :: rest, unterminated, progress⟩ none ⟨left, unterminated, progress⟩
  | region (region : Unterminated) (progress : Progress) :
      Goes ⟨[], some region, progress⟩ none ⟨[], none, progress⟩
  | last {progress : Progress} (opened : progress.pending.isEmpty = false) :
      Goes ⟨[], none, progress⟩ (some (progress.close 1)) ⟨[], none, progress.clear⟩
  | abandon (pass : Pass) : Goes pass none pass.abandon

inductive Runs : Pass → List Batch → Pass → Prop
  | rest (pass : Pass) : Runs pass [] pass
  | move {pass next last : Pass} {batch : Option Batch} {batches : List Batch}
      (goes : Goes pass batch next) (behind : Runs next batches last) :
      Runs pass (batch.toList ++ batches) last

/-- The elements of the open batch in order, and behind them those still to be read. -/
def outstanding (pass : Pass) : List Element :=
  pass.progress.pending.reverse.map (·.element) ++ pass.elements

end Pass

/-- The start is the place of the first element of the open batch, if there is one. -/
def Progress.KnowsStart (progress : Progress) : Prop :=
  progress.start = progress.pending.getLast?.map (·.element.position)

namespace Progress

theorem KnowsStart.append {progress : Progress} (knows : progress.KnowsStart)
    (element : Element) : (progress.append element).KnowsStart := by
  rcases progress with ⟨context, pending, start⟩
  unfold KnowsStart at *
  dsimp only at knows
  subst knows
  cases pending with
  | nil => rfl
  | cons piece pending =>
      simp only [Progress.append, List.getLast?_cons_cons]
      cases last : (piece :: pending).getLast? with
      | none => simp at last
      | some first => rfl

theorem KnowsStart.close {progress : Progress} (knows : progress.KnowsStart)
    (opened : progress.pending.isEmpty = false) (count : Int) :
    ∃ first pieces, (progress.close count).pieces = first :: pieces ∧
      (progress.close count).start = first.element.position ∧
      progress.start = some (progress.close count).start := by
  rcases progress with ⟨context, pending, start⟩
  unfold KnowsStart at knows
  dsimp only at knows
  subst knows
  rcases List.eq_nil_or_concat pending with rfl | ⟨later, first, rfl⟩
  · cases opened
  · exact ⟨first, later.reverse, by simp [Progress.close], by simp [Progress.close],
      by simp [Progress.close]⟩

end Progress

namespace Pass

/-! ## What a move keeps -/

variable {pass next : Pass} {batch : Option Batch}

theorem Goes.knowsStart (goes : Goes pass batch next) (knows : pass.progress.KnowsStart) :
    next.progress.KnowsStart := by
  cases goes with
  | take taken =>
      rcases step_takes taken with ⟨part, -, -, moves⟩
      cases part with
      | separator element =>
          rcases moves with ⟨count, -, moves⟩
          split at moves
          · exact moves.2 ▸ knows
          · exact moves.2 ▸ rfl
      | directive element literal => exact moves.2 ▸ knows
      | content element => exact moves.2 ▸ knows.append element
  | fault | region => exact knows
  | last | abandon => rfl

theorem Goes.outstanding (goes : Goes pass batch next) :
    next.outstanding.Sublist pass.outstanding := by
  cases goes with
  | @take progress element rest _ moved taken =>
      rcases step_takes taken with ⟨part, split, -, moves⟩
      unfold Pass.outstanding
      dsimp only
      rw [split]
      cases part with
      | separator element =>
          have behind := List.sublist_append_right [element] moved.rest
          rcases moves with ⟨count, -, moves⟩
          split at moves
          · rw [moves.2]
            exact behind.append_left _
          · rw [moves.2]
            exact behind.trans (List.sublist_append_right _ _)
      | directive element literal =>
          rw [moves.2]
          exact (List.sublist_append_right _ _).append_left _
      | content element =>
          rw [moves.2]
          simp [Progress.append, Part.elements]
  | fault taken => exact (leaves_of_step taken).suffix.sublist.append_left _
  | region => exact List.Sublist.refl _
  | last => exact List.nil_sublist _
  | abandon pass => exact List.sublist_append_right _ _

/-- A batch is closed with the start that has been set, which is that of its first element.
Behind the batch there is a separator, or nothing at all. -/
theorem Goes.closes {closed : Batch} (goes : Goes pass (some closed) next)
    (knows : pass.progress.KnowsStart) :
    pass.progress.start = some closed.start ∧
      ∃ first pieces, closed.pieces = first :: pieces ∧
        closed.start = first.element.position ∧ first.element ∈ pass.outstanding ∧
        (next.outstanding = [] ∨
          ∃ separator : Element, separator.isSeparator = true ∧
            pass.outstanding =
              closed.pieces.map (·.element) ++ separator :: next.outstanding) := by
  generalize answered : some closed = batch at goes
  cases goes with
  | @take progress element rest unterminated moved taken =>
      rcases step_takes taken with ⟨part, split, judged, moves⟩
      cases part with
      | separator separator =>
          rcases moves with ⟨count, -, moves⟩
          split at moves
          · cases answered.trans moves.1
          · rename_i opened
            cases answered.trans moves.1
            rcases knows.close (Bool.eq_false_iff.mpr opened) count with
              ⟨first, pieces, all, place, set⟩
            have whole : Pass.outstanding ⟨element :: rest, unterminated, progress⟩ =
                (progress.close count).pieces.map (·.element) ++ separator :: moved.rest :=
              congrArg (_ ++ ·) split
            refine ⟨set, first, pieces, all, place, ?_, .inr ⟨separator, judged, ?_⟩⟩
            · rw [whole, all]
              exact List.mem_append_left _ List.mem_cons_self
            · rw [whole, moves.2]
              rfl
      | directive | content => cases answered.trans moves.1
  | @last progress opened =>
      cases answered
      rcases knows.close opened 1 with ⟨first, pieces, all, place, set⟩
      refine ⟨set, first, pieces, all, place, ?_, .inl rfl⟩
      have whole : Pass.outstanding ⟨[], none, progress⟩ =
          (progress.close 1).pieces.map (·.element) := List.append_nil _
      rw [whole, all]
      exact List.mem_cons_self
  | fault | region | abandon => cases answered

theorem Goes.precedes {closed : Batch} (goes : Goes pass (some closed) next)
    (knows : pass.progress.KnowsStart)
    (ordered : pass.outstanding.Pairwise Element.ComesBefore) :
    ∀ element ∈ next.outstanding, closed.start.Precedes element.position := by
  intro element member
  rcases (goes.closes knows).2 with ⟨first, pieces, all, place, -, nothing | between⟩
  · rw [nothing] at member
    cases member
  · rcases between with ⟨separator, separates, whole⟩
    rw [whole, all, List.map_cons, List.cons_append] at ordered
    rcases List.pairwise_cons.mp ordered with ⟨behindFirst, behind⟩
    have before : first.element.ComesBefore separator :=
      behindFirst separator (List.mem_append_right _ List.mem_cons_self)
    have after : separator.ComesBefore element :=
      (List.pairwise_cons.mp (List.pairwise_append.mp behind).2.1).1 element member
    rw [place]
    exact before.precedes after separates

/-! ## What all moves keep -/

variable {last : Pass} {batches : List Batch}

theorem Runs.knowsStart (runs : Runs pass batches last) (knows : pass.progress.KnowsStart) :
    last.progress.KnowsStart := by
  induction runs with
  | rest => exact knows
  | move goes _ induction => exact induction (goes.knowsStart knows)

theorem Runs.outstanding (runs : Runs pass batches last) :
    last.outstanding.Sublist pass.outstanding := by
  induction runs with
  | rest => exact List.Sublist.refl _
  | move goes _ induction => exact induction.trans goes.outstanding

/-- Each batch starts with an element that was outstanding, behind the starts of all batches
in front of it. -/
theorem Runs.starts (runs : Runs pass batches last) (knows : pass.progress.KnowsStart)
    (ordered : pass.outstanding.Pairwise Element.ComesBefore) :
    (∀ batch ∈ batches, ∃ element ∈ pass.outstanding, batch.start = element.position) ∧
      batches.Pairwise fun first second => first.start.Precedes second.start := by
  induction runs with
  | rest => exact ⟨nofun, .nil⟩
  | @move pass next last batch batches goes _ induction =>
      rcases induction (goes.knowsStart knows) (ordered.sublist goes.outstanding) with
        ⟨members, increasing⟩
      have behind : ∀ batch ∈ batches, ∃ element ∈ pass.outstanding,
          batch.start = element.position := by
        intro batch member
        rcases members batch member with ⟨element, left, place⟩
        exact ⟨element, goes.outstanding.subset left, place⟩
      cases batch with
      | none => exact ⟨behind, increasing⟩
      | some closed =>
          rcases (goes.closes knows).2 with ⟨first, pieces, -, place, isOutstanding, -⟩
          refine ⟨List.forall_mem_cons.mpr ⟨⟨_, isOutstanding, place⟩, behind⟩,
            List.pairwise_cons.mpr ⟨?_, increasing⟩⟩
          intro batch member
          rcases members batch member with ⟨element, left, placeBehind⟩
          rw [placeBehind]
          exact goes.precedes knows ordered element left

/-! ## Requests and other operations as moves -/

theorem Runs.append {middle : Pass} {more : List Batch} (runs : Runs pass batches middle)
    (onward : Runs middle more last) : Runs pass (batches ++ more) last := by
  induction runs with
  | rest => exact onward
  | move goes _ induction =>
      rw [List.append_assoc]
      exact .move goes (induction onward)

end Pass

def Answer.batch? : Answer → Option Batch
  | batch closed => some closed
  | fault _ | cancelled | finished => none

namespace Pass

theorem runs_finish (unterminated : Option Unterminated) (progress : Progress) :
    Runs ⟨[], unterminated, progress⟩ (finish unterminated progress).1.batch?.toList
      (finish unterminated progress).2 := by
  cases unterminated with
  | some region => exact .move (.region region progress) (.rest _)
  | none =>
      rw [finish]
      cases opened : progress.pending.isEmpty with
      | true => exact .rest _
      | false => exact .move (.last opened) (.rest _)

theorem runs_advance (unterminated : Option Unterminated) (progress : Progress)
    (elements : List Element) :
    Runs ⟨elements, unterminated, progress⟩
      (advance unterminated progress elements).1.batch?.toList
      (advance unterminated progress elements).2 := by
  induction progress, elements using induct with
  | atEnd progress =>
      rw [advance]
      exact runs_finish unterminated progress
  | atFault progress element rest found taken =>
      rw [advance_cons, taken]
      exact .move (.fault taken) (.rest _)
  | before progress element rest moved taken induction =>
      rw [advance_cons, taken]
      rcases moved with ⟨batch, next, left⟩
      cases batch with
      | none => exact .move (.take taken) induction
      | some batch => exact .move (.take taken) (.rest _)

theorem runs_nextBatch (pass : Pass) (cancelled : Bool) :
    Runs pass (pass.nextBatch cancelled).1.batch?.toList (pass.nextBatch cancelled).2 := by
  cases cancelled with
  | true => exact .move (.abandon pass) (.rest _)
  | false => exact runs_advance _ _ _

end Pass

namespace Reader

def batchesOf (told : List (Operation × Option Answer)) : List Batch :=
  told.filterMap fun entry => entry.2.bind Answer.batch?

theorem runs_perform (reader : Reader) (operation : Operation) :
    Pass.Runs reader.pass ((reader.perform operation).1.bind Answer.batch?).toList
      (reader.perform operation).2.pass := by
  have asked := Pass.runs_nextBatch reader.pass reader.cancelled
  cases operation with
  | next =>
      cases stopped : reader.stopped with
      | true =>
          rw [perform, next_of_stopped stopped]
          exact .rest _
      | false =>
          rw [perform, next_of_going stopped]
          exact asked
  | nextBatch => exact asked
  | cancel => exact .rest _

theorem runs_after (reader : Reader) (operations : List Operation) :
    Pass.Runs reader.pass (batchesOf (reader.told operations))
      (reader.after operations).pass := by
  induction operations generalizing reader with
  | nil => exact .rest _
  | cons operation rest induction =>
      have first := reader.runs_perform operation
      have onward := first.append (induction (reader.perform operation).2)
      rw [told, batchesOf, List.filterMap_cons]
      cases answered : (reader.perform operation).1.bind Answer.batch? with
      | none =>
          rw [answered] at onward
          exact onward
      | some batch =>
          rw [answered] at onward
          exact onward

end Reader

/-- However a reader of a script has been asked and cancelled, its requests are moves of one
pass. Wherever these can lead, also in the middle of a request: a start is set exactly when
there is an open batch, it is the place where the scan found the first open element, and a
batch is closed with the start that is set and with no other place. The batches that are
handed out start in places further and further down the script. -/
theorem open_batch_has_start (script : List Char) (context : Context)
    (operations : List Operation) :
    let reader := Reader.ofScript script context
    let batches := Reader.batchesOf (reader.told operations)
    Pass.Runs reader.pass batches (reader.after operations).pass ∧
      (batches.Pairwise fun first second => first.start.Precedes second.start) ∧
      ∀ closed pass, Pass.Runs reader.pass closed pass →
        (pass.progress.start.isSome = true ↔ pass.progress.pending ≠ []) ∧
          (∀ first, pass.progress.pending.getLast? = some first →
            pass.progress.start = some first.element.position ∧
              ∃ front, first.element.StandsBehind script front) ∧
          ∀ batch next, Pass.Goes pass (some batch) next →
            pass.progress.start = some batch.start := by
  intro reader batches
  have knows : reader.pass.progress.KnowsStart := rfl
  have ordered : reader.pass.outstanding.Pairwise Element.ComesBefore :=
    (Cursor.scans_elements (.ofScript script)).inOrder
  have asked := Reader.runs_after reader operations
  refine ⟨asked, (asked.starts knows ordered).2, ?_⟩
  intro closed pass runs
  have knowsNow := runs.knowsStart knows
  refine ⟨?_, ?_, fun batch next goes => (goes.closes knowsNow).1⟩
  · rw [knowsNow, Option.isSome_map, Option.isSome_iff_ne_none, ne_eq, List.getLast?_eq_none_iff]
  · intro first isFirst
    have isOutstanding : first.element ∈ pass.outstanding :=
      List.mem_append_left _ (List.mem_map_of_mem
        (List.mem_reverse.mpr (List.mem_of_getLast? isFirst)))
    refine ⟨?_, standsBehind_of_mem (runs.outstanding.subset isOutstanding)⟩
    rw [knowsNow, isFirst]
    rfl

/-- The carriage returns are the content of the first batch and the end of the separator. -/
example :
    (Reader.batchesOf ((Reader.ofScript "\rGO\rX".toList (.ofOptions {})).told
      [.next, .nextBatch])).map (·.start) = [⟨1, 1⟩, ⟨1, 3⟩] := by
  decide +kernel

end Batchwise
