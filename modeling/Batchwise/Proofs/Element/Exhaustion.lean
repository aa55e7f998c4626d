import Batchwise.Pass
import Batchwise.Proofs.Element.Unterminated

namespace Batchwise

/-! A scan that is asked again and again. It answers with one element after the other, then
perhaps with a region that never closes, and from there on with the end. Every answer but
the end takes characters off the script, and no character is lost. -/

/-- A comment or literal that is opened here and closed nowhere behind its opening. -/
inductive Unclosed : ElementKind → List Char → Prop
  | comment {behind : List Char} (noEnd : ∀ front, ¬ ClosedAt 1 behind front) :
      Unclosed .blockComment ('/' :: '*' :: behind)
  | literal (quote : Quote) {behind : List Char}
      (noEnd : ∀ text rest, behind = text ++ rest → ¬ Delimits quote.closer text rest) :
      Unclosed (.literal quote) (quote.opener :: behind)

theorem restOfComment_eq_none_iff {depth : Nat} {script : List Char} :
    restOfComment depth script = none ↔ ∀ front, ¬ ClosedAt depth script front := by
  have answers := restOfComment_answers depth script
  cases found : restOfComment depth script with
  | none =>
      rw [found] at answers
      exact iff_of_true rfl answers
  | some split =>
      rw [found] at answers
      rcases answers with ⟨equal, closed, -⟩
      refine iff_of_false (Option.some_ne_none _) ?_
      intro never
      rw [equal] at never
      exact never split.1 closed

theorem restOfLiteral_eq_none_iff {closer : Char} {script : List Char} :
    restOfLiteral closer script = none ↔
      ∀ text rest, script = text ++ rest → ¬ Delimits closer text rest := by
  rw [Option.eq_none_iff_forall_ne_some, Prod.forall]
  refine forall_congr' fun text => forall_congr' fun rest => ?_
  rw [ne_eq, restOfLiteral_eq_some_iff, not_and]

theorem NeverCloses.unclosed {kind : ElementKind} {script : List Char}
    (neverCloses : NeverCloses kind script) : Unclosed kind script := by
  rcases neverCloses with ⟨starts, noElement⟩
  cases starts with
  | literal quote behind =>
      refine .literal quote ?_
      rintro text rest rfl delimits
      exact noElement ⟨.literal quote, quote.opener :: text, .start, .none⟩ rest rfl
        (List.cons_ne_nil _ _) ⟨rfl, text, rfl, delimits⟩
  | lineComment behind =>
      -- A line comment ends with its line at the latest.
      rcases restOfLine_eq_iff.mp (Eq.refl (restOfLine behind)) with ⟨split, ends⟩
      refine absurd ?_ (noElement ⟨.lineComment, '-' :: '-' :: (restOfLine behind).1, .start,
        .none⟩ (restOfLine behind).2 ?_ (List.cons_ne_nil _ _))
      · exact ⟨rfl, _, rfl, ends⟩
      · exact congrArg ('-' :: '-' :: ·) split
  | blockComment behind =>
      refine .comment (restOfComment_eq_none_iff.mp ?_)
      cases found : restOfComment 1 behind with
      | none => rfl
      | some split =>
          rcases restOfComment_eq_some_iff.mp found with ⟨equal, closes⟩
          refine absurd ?_ (noElement ⟨.blockComment, '/' :: '*' :: split.1, .start, .none⟩
            split.2 ?_ (List.cons_ne_nil _ _))
          · exact ⟨rfl, _, rfl, closes⟩
          · exact congrArg ('/' :: '*' :: ·) equal

theorem Unclosed.ne_nil {kind : ElementKind} {script : List Char}
    (unclosed : Unclosed kind script) : script ≠ [] := by
  cases unclosed <;> exact List.cons_ne_nil _ _

namespace Cursor

/-! ## One call -/

theorem next_of_unclosed {cursor : Cursor} {kind : ElementKind}
    (unclosed : Unclosed kind cursor.rest) :
    cursor.next = (.unterminated ⟨kind, cursor.position⟩,
      ⟨[], cursor.position.after cursor.rest⟩) := by
  rcases cursor with ⟨script, position⟩
  cases unclosed with
  | comment noEnd => rw [next_blockComment, restOfComment_eq_none_iff.mpr noEnd, close, advance]
  | literal quote noEnd =>
      rw [next_literal, restOfLiteral_eq_none_iff.mpr noEnd, close, advance]

theorem elements_of_unclosed {cursor : Cursor} {kind : ElementKind}
    (unclosed : Unclosed kind cursor.rest) :
    cursor.elements = ⟨[], some ⟨kind, cursor.position⟩⟩ := by
  rw [elements, dif_neg unclosed.ne_nil, next_of_unclosed unclosed]

theorem next_of_rest_eq_nil {cursor : Cursor} (atEnd : cursor.rest = []) :
    cursor.next = (.finished, cursor) := by
  rcases cursor with ⟨script, position⟩
  dsimp only at atEnd
  subst atEnd
  rfl

theorem next_unterminated_iff {cursor : Cursor} {region : Unterminated} :
    cursor.next.1 = .unterminated region ↔
      Unclosed region.kind cursor.rest ∧ region.position = cursor.position := by
  constructor
  · intro stuck
    rcases neverCloses_of_next (Prod.ext stuck rfl) with ⟨position, neverCloses⟩
    exact ⟨neverCloses.unclosed, position⟩
  · rintro ⟨unclosed, position⟩
    rw [next_of_unclosed unclosed, ← position]

theorem next_takes (cursor : Cursor) :
    ∃ taken, cursor.rest = taken ++ cursor.next.2.rest ∧
      cursor.next.2.position = cursor.position.after taken ∧
      (taken = [] ↔ cursor.next.1 = .finished) := by
  cases answer : cursor.next.1 with
  | finished =>
      have stays := next_of_rest_eq_nil (next_finished_iff.mp answer)
      refine ⟨[], ?_, ?_, iff_of_true rfl rfl⟩
      · rw [stays, List.nil_append]
      · rw [stays, Position.after_nil]
  | unterminated region =>
      rcases next_unterminated_iff.mp answer with ⟨unclosed, -⟩
      have stuck := next_of_unclosed unclosed
      refine ⟨cursor.rest, ?_, ?_, iff_of_false unclosed.ne_nil nofun⟩
      · rw [stuck, List.append_nil]
      · rw [stuck]
  | element element =>
      have whole : cursor.next = (.element element, cursor.next.2) := Prod.ext answer rfl
      rcases fits_of_next whole with ⟨rest, advanced, split, nonempty, -, -⟩
      rw [advanced]
      exact ⟨element.text, split, rfl, iff_of_false nonempty nofun⟩

/-! ## Many calls -/

def skip (cursor : Cursor) : Nat → Cursor
  | 0 => cursor
  | calls + 1 => cursor.next.2.skip calls

def answers (cursor : Cursor) : Nat → List Scanned
  | 0 => []
  | calls + 1 => cursor.next.1 :: cursor.next.2.answers calls

end Cursor

def Elements.answers (read : Elements) : List Scanned :=
  read.elements.map .element ++ read.unterminated.toList.map .unterminated

namespace Cursor

theorem answers_elements (cursor : Cursor) :
    cursor.elements.answers =
      if cursor.next.1 = .finished then [] else cursor.next.1 :: cursor.next.2.elements.answers := by
  cases answer : cursor.next.1 with
  | finished =>
      rw [elements_of_rest_eq_nil (next_finished_iff.mp answer), if_pos rfl]
      rfl
  | unterminated region =>
      rcases next_unterminated_iff.mp answer with ⟨unclosed, -⟩
      rw [elements_of_unclosed unclosed, ← answer, next_of_unclosed unclosed, if_neg nofun,
        elements_of_rest_eq_nil rfl]
      rfl
  | element element =>
      rw [elements_of_next (Prod.ext answer rfl), if_neg nofun]
      rfl

theorem answers_eq (cursor : Cursor) (calls : Nat) :
    cursor.answers calls = cursor.elements.answers.takeD calls .finished := by
  induction calls generalizing cursor with
  | zero => rfl
  | succ calls induction =>
      rw [answers, induction, answers_elements cursor]
      split
      · rename_i finished
        have atEnd := next_finished_iff.mp finished
        rw [next_of_rest_eq_nil atEnd, elements_of_rest_eq_nil atEnd]
        rfl
      · rfl

theorem skip_succ (cursor : Cursor) (calls : Nat) :
    cursor.skip (calls + 1) = (cursor.skip calls).next.2 := by
  induction calls generalizing cursor with
  | zero => rfl
  | succ calls induction => exact induction cursor.next.2

theorem skip_of_rest_eq_nil {cursor : Cursor} (atEnd : cursor.rest = []) (calls : Nat) :
    cursor.skip calls = cursor := by
  induction calls with
  | zero => rfl
  | succ calls induction => rw [skip, next_of_rest_eq_nil atEnd, induction]

theorem skip_reads {cursor : Cursor} {calls : Nat}
    (within : calls ≤ cursor.elements.elements.length) :
    cursor.rest = sourceOf (cursor.elements.elements.take calls) ++ (cursor.skip calls).rest ∧
      (cursor.skip calls).position =
        cursor.position.after (sourceOf (cursor.elements.elements.take calls)) := by
  induction calls generalizing cursor with
  | zero => exact ⟨rfl, rfl⟩
  | succ calls induction =>
      cases found : cursor.elements.elements with
      | nil =>
          rw [found] at within
          exact absurd within (Nat.not_succ_le_zero _)
      | cons element elements =>
          have isFirst : element ∈ cursor.elements.elements.head? := by
            rw [found]
            rfl
          rcases next_of_mem_head? isFirst with ⟨following, read⟩
          rcases fits_of_next read with ⟨rest, rfl, split, -, -, -⟩
          rw [elements_of_next read] at found within
          cases found
          rcases induction (Nat.le_of_succ_le_succ within) with ⟨source, position⟩
          rw [skip, read, List.take_succ_cons, sourceOf_cons, Position.after_append,
            List.append_assoc, ← source]
          exact ⟨split, position⟩

theorem next_behind_elements (cursor : Cursor) :
    (cursor.skip cursor.elements.elements.length).next.1 =
      cursor.elements.unterminated.elim .finished .unterminated := by
  fun_induction Cursor.elements cursor with
  | case1 cursor atEnd => exact next_finished_iff.mpr atEnd
  | case2 cursor more finished => exact finished
  | case3 cursor more region stuck => exact stuck
  | case4 cursor more element read following induction => exact induction

theorem skip_beyond {cursor : Cursor} {calls : Nat}
    (beyond : cursor.elements.elements.length < calls) :
    cursor.skip calls = ⟨[], cursor.position.after cursor.rest⟩ := by
  induction calls generalizing cursor with
  | zero => exact absurd beyond (Nat.not_lt_zero _)
  | succ calls induction =>
      rw [skip]
      cases answer : cursor.next.1 with
      | finished =>
          have atEnd := next_finished_iff.mp answer
          rw [next_of_rest_eq_nil atEnd, skip_of_rest_eq_nil atEnd, atEnd, Position.after_nil,
            ← atEnd]
      | unterminated region =>
          rcases next_unterminated_iff.mp answer with ⟨unclosed, -⟩
          rw [next_of_unclosed unclosed, skip_of_rest_eq_nil rfl]
      | element element =>
          have whole : cursor.next = (.element element, cursor.next.2) := Prod.ext answer rfl
          rw [elements_of_next whole] at beyond
          rcases next_takes cursor with ⟨taken, split, position, -⟩
          rw [induction (Nat.lt_of_succ_lt_succ beyond), position, split, Position.after_append]

end Cursor

/-- However often a scan is asked, from wherever it stands, it answers with the elements of
the script in order, then with the region that never closes if there is one, and then with
the end for ever. A call takes characters off the script unless it has found the end. It
fails exactly where a comment or a literal is opened that the rest of the script does not
close; the error tells the place of the opening, what is left behind it is taken to the last
character, and together with the elements it is the script. -/
theorem scanning_fails_only_at_unclosed_region (first : Cursor) :
    first.elements.answers.length ≤ first.rest.length ∧
      (∀ calls, first.answers calls = first.elements.answers.takeD calls .finished) ∧
      (∀ calls,
        (∃ taken, (first.skip calls).rest = taken ++ (first.skip (calls + 1)).rest ∧
          (taken = [] ↔ (first.skip calls).next.1 = .finished)) ∧
        ∀ region, (first.skip calls).next.1 = .unterminated region ↔
          Unclosed region.kind (first.skip calls).rest ∧
            region.position = (first.skip calls).position) ∧
      (∀ calls ≤ first.elements.elements.length,
        first.rest =
            sourceOf (first.elements.elements.take calls) ++ (first.skip calls).rest ∧
          (first.skip calls).position =
            first.position.after (sourceOf (first.elements.elements.take calls))) ∧
      (∀ calls > first.elements.elements.length,
        first.skip calls = ⟨[], first.position.after first.rest⟩) ∧
      match first.elements.unterminated with
      | none => first.rest = sourceOf first.elements.elements
      | some region =>
        ∃ remainder, first.rest = sourceOf first.elements.elements ++ remainder ∧
          Unclosed region.kind remainder ∧
          region.position = first.position.after (sourceOf first.elements.elements) ∧
          region.fault.toError = .malformed (some region.position.line)
            (some region.position.column) region.fault.malformation.message := by
  have last := Cursor.skip_reads (Nat.le_refl first.elements.elements.length)
  rw [List.take_length] at last
  refine ⟨?_, Cursor.answers_eq first, ?_, ?_, ?_, ?_⟩
  · have few := (Cursor.scans_elements first).length_le
    rw [Elements.answers, List.length_append, List.length_map, List.length_map]
    exact few
  · intro calls
    rcases Cursor.next_takes (first.skip calls) with ⟨taken, split, -, nothing⟩
    rw [Cursor.skip_succ]
    exact ⟨⟨taken, split, nothing⟩, fun region => Cursor.next_unterminated_iff⟩
  · intro calls within
    exact Cursor.skip_reads within
  · intro calls beyond
    exact Cursor.skip_beyond beyond
  · have answer := Cursor.next_behind_elements first
    cases found : first.elements.unterminated with
    | none =>
        rw [found] at answer
        have atEnd := Cursor.next_finished_iff.mp answer
        rw [atEnd, List.append_nil] at last
        exact last.1
    | some region =>
        rw [found] at answer
        rcases Cursor.next_unterminated_iff.mp answer with ⟨unclosed, position⟩
        exact ⟨_, last.1, unclosed, position.trans last.2, rfl⟩

/-- The doubled quote does not close the literal, and the line feed is part of it. -/
theorem scanning_fails_only_at_unclosed_region_of_doubled_quote :
    let first := Cursor.ofScript "a\n 'it''s\n".toList
    first.answers 5 =
        [.element ⟨.text, ['a', '\n'], ⟨1, 1⟩, .endOfLine⟩,
          .element ⟨.text, [' '], ⟨2, 1⟩, .before (.literal .single)⟩,
          .unterminated ⟨.literal .single, ⟨2, 2⟩⟩, .finished, .finished] ∧
      (first.skip 2).rest = "'it''s\n".toList ∧ first.skip 3 = ⟨[], ⟨3, 1⟩⟩ := by
  intro first
  rcases scanning_fails_only_at_unclosed_region first with
    ⟨-, answers, -, reads, beyond, -⟩
  have elements : first.elements.elements.length = 2 := by decide +kernel
  refine ⟨?_, ?_, ?_⟩
  · rw [answers 5]
    decide +kernel
  · have source := (reads 2 (Nat.le_of_eq elements.symm)).1
    refine List.append_cancel_left (source.symm.trans ?_)
    decide +kernel
  · rw [beyond 3 (Nat.lt_succ_of_le (Nat.le_of_eq elements))]
    rfl

end Batchwise
