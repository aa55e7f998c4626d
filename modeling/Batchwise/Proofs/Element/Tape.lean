import Batchwise.Error
import Batchwise.Proofs.Element.Concatenation
import Batchwise.Proofs.Element.Exhaustion

namespace Batchwise

/-! Scanning one character at a time. A tape gives the characters of a script one by one;
the next one can be looked at, and the one that has been read last can be put back. Each
character that is read moves the place of the tape, and putting it back restores the place
that it was read at: no place is ever counted anew. Scanned in this way a script gives what
taking whole regions off its front gives, and the tape stands where counting says. -/

structure Tape where
  /-- The characters that have never been read. -/
  source : List Char
  /-- A character that has been put back. There is room for one. -/
  slot : Option Char
  position : Position
  deriving DecidableEq, Repr

namespace Tape

def ofScript (script : List Char) : Tape :=
  ⟨script, none, .start⟩

/-- All that is still to be read, with the character that has been put back. -/
def ahead (tape : Tape) : List Char :=
  tape.slot.toList ++ tape.source

def cursor (tape : Tape) : Cursor :=
  ⟨tape.ahead, tape.position⟩

def read (tape : Tape) : Option (Char × Tape) :=
  match tape.slot, tape.source with
  | some character, source => some (character, ⟨source, none, tape.position.step character⟩)
  | none, character :: rest => some (character, ⟨rest, none, tape.position.step character⟩)
  | none, [] => none

def peek (tape : Tape) : Option Char :=
  tape.slot.or tape.source.head?

def slotOccupied : ScriptError :=
  .malformed none none "character pushback slot is already occupied"

def unread (tape : Tape) (character : Char) (position : Position) : Except ScriptError Tape :=
  match tape.slot with
  | some _ => .error slotOccupied
  | none => .ok ⟨tape.source, some character, position⟩

def push (tape : Tape) (text : List Char) : List Char × Tape :=
  match tape.read with
  | none => (text, tape)
  | some (character, behind) => (text ++ [character], behind)

theorem read_shorter {tape behind : Tape} {character : Char}
    (taken : tape.read = some (character, behind)) :
    behind.ahead.length < tape.ahead.length := by
  rcases tape with ⟨source, slot, position⟩
  cases slot with
  | some first =>
      cases taken
      simp [ahead]
  | none =>
      cases source with
      | nil => cases taken
      | cons first rest =>
          cases taken
          simp [ahead]

theorem push_length (tape : Tape) (text : List Char) :
    (tape.push text).2.ahead.length ≤ tape.ahead.length := by
  rw [push]
  split
  · exact Nat.le_refl _
  · rename_i taken
    exact Nat.le_of_lt (read_shorter taken)

/-! ## Readers

Each of them goes on with a text that has been read already. -/

/-- The text of a line that ends with the character in front of `behind`, which has been
read last. A line feed behind a carriage return is read with it. -/
def endLine? (behind : Tape) (character : Char) (text : List Char) :
    Option (List Char × Tape) :=
  if character = '\r' then
    if behind.peek = some '\n' then some (behind.push (text ++ [character]))
    else some (text ++ [character], behind)
  else if character = '\n' then some (text ++ [character], behind)
  else none

def readLine (tape : Tape) (text : List Char) : List Char × Tape :=
  match _taken : tape.read with
  | none => (text, tape)
  | some (character, behind) =>
    match behind.endLine? character text with
    | some ended => ended
    | none => behind.readLine (text ++ [character])
termination_by tape.ahead.length
decreasing_by exact read_shorter _taken

def readComment (tape : Tape) (depth : Nat) (text : List Char) : Option (List Char) × Tape :=
  match depth with
  | 0 => (some text, tape)
  | depth + 1 =>
    match _taken : tape.read with
    | none => (none, tape)
    | some (character, behind) =>
      if character = '*' ∧ behind.peek = some '/' then
        (behind.push (text ++ [character])).2.readComment depth
          (behind.push (text ++ [character])).1
      else if character = '/' ∧ behind.peek = some '*' then
        (behind.push (text ++ [character])).2.readComment (depth + 2)
          (behind.push (text ++ [character])).1
      else behind.readComment (depth + 1) (text ++ [character])
termination_by tape.ahead.length
decreasing_by
  · exact Nat.lt_of_le_of_lt (push_length _ _) (read_shorter _taken)
  · exact Nat.lt_of_le_of_lt (push_length _ _) (read_shorter _taken)
  · exact read_shorter _taken

def readLiteral (tape : Tape) (closer : Char) (text : List Char) : Option (List Char) × Tape :=
  match _taken : tape.read with
  | none => (none, tape)
  | some (character, behind) =>
    if character = closer then
      if behind.peek = some closer then
        (behind.push (text ++ [character])).2.readLiteral closer
          (behind.push (text ++ [character])).1
      else (some (text ++ [character]), behind)
    else behind.readLiteral closer (text ++ [character])
termination_by tape.ahead.length
decreasing_by
  · exact Nat.lt_of_le_of_lt (push_length _ _) (read_shorter _taken)
  · exact read_shorter _taken

def readBody (tape : Tape) (kind : ElementKind) (first : Char) : Option (List Char) × Tape :=
  match kind with
  | .lineComment =>
    let (opening, behind) := tape.push [first]
    let (text, left) := behind.readLine opening
    (some text, left)
  | .blockComment =>
    let (opening, behind) := tape.push [first]
    behind.readComment 1 opening
  | _ => tape.readLiteral (Quote.closing first) [first]

def readRegion (tape : Tape) (kind : ElementKind) (opened : Position) (first : Char) :
    Scanned × Tape :=
  match tape.readBody kind first with
  | (some text, left) => (.element ⟨kind, text, opened, .none⟩, left)
  | (none, left) => (.unterminated ⟨kind, opened⟩, left)

/-- Read an element that begins with the plain text `text` in the place `opened`. A comment
or literal that starts behind plain text is put back. -/
def scan (tape : Tape) (opened : Position) (text : List Char) :
    Except ScriptError Scanned × Tape :=
  match _taken : tape.read with
  | none =>
    if text = [] then (.ok .finished, tape)
    else (.ok (.element ⟨.text, text, opened, .endOfScript⟩), tape)
  | some (character, behind) =>
    match specialStart (character :: behind.peek.toList) with
    | some kind =>
      if text = [] then
        let (scanned, left) := behind.readRegion kind opened character
        (.ok scanned, left)
      else
        match behind.unread character tape.position with
        | .ok left => (.ok (.element ⟨.text, text, opened, .before kind⟩), left)
        | .error error => (.error error, behind)
    | none =>
      match behind.endLine? character text with
      | some (run, left) => (.ok (.element ⟨.text, run, opened, .endOfLine⟩), left)
      | none => behind.scan opened (text ++ [character])
termination_by tape.ahead.length
decreasing_by exact read_shorter _taken

def next (tape : Tape) : Except ScriptError Scanned × Tape :=
  tape.scan tape.position []

def skip (tape : Tape) : Nat → Tape
  | 0 => tape
  | calls + 1 => tape.next.2.skip calls

/-! ## The readers of a tape and the readers of its characters

Nothing is put back until the next call, so the readers find the slot empty. -/

section Empty

variable (position : Position) (text : List Char)

@[simp] theorem read_nil : (Tape.mk [] none position).read = none := rfl

@[simp] theorem read_cons (character : Char) (rest : List Char) :
    (Tape.mk (character :: rest) none position).read =
      some (character, ⟨rest, none, position.step character⟩) := rfl

@[simp] theorem peek_source (source : List Char) :
    (Tape.mk source none position).peek = source.head? := rfl

@[simp] theorem push_cons (character : Char) (rest : List Char) :
    (Tape.mk (character :: rest) none position).push text =
      (text ++ [character], ⟨rest, none, position.step character⟩) := rfl

theorem endLine?_eq (first : Char) (rest : List Char) :
    (Tape.mk rest none (position.step first)).endLine? first text =
      (lineTerminator? (first :: rest)).map fun split =>
        (text ++ split.1, ⟨split.2, none, position.after split.1⟩) := by
  unfold endLine?
  by_cases isReturn : first = '\r'
  · subst isReturn
    cases rest with
    | nil => rfl
    | cons second rest =>
        by_cases pair : second = '\n'
        · subst pair
          simp [lineTerminator?]
        · have alone : lineTerminator? ('\r' :: second :: rest) = some (['\r'], second :: rest) :=
            lineTerminator?_eq_some_iff.mpr ⟨rfl, .carriageReturn _ (by simpa using pair)⟩
          simp [alone, pair]
  · by_cases isFeed : first = '\n'
    · subst isFeed
      rfl
    · rw [if_neg isReturn, if_neg isFeed, lineTerminator?_eq_none_of_ne ⟨isReturn, isFeed⟩]
      rfl

theorem readLine_eq (source : List Char) :
    (Tape.mk source none position).readLine text =
      (text ++ (restOfLine source).1,
        ⟨(restOfLine source).2, none, position.after (restOfLine source).1⟩) := by
  induction source generalizing text position with
  | nil =>
      rw [readLine]
      simp [restOfLine]
  | cons first rest induction =>
      rw [readLine, restOfLine]
      simp only [read_cons, endLine?_eq]
      cases lineTerminator? (first :: rest) with
      | some split => rfl
      | none =>
          simp only [Option.map_none, induction, List.append_assoc]
          rfl

end Empty

/-- The text and the tape behind a body that stands at the front of `source`. Where the body
has no end, everything has been read. -/
def behindBody (text source : List Char) (position : Position) :
    Option (List Char × List Char) → Option (List Char) × Tape
  | some (front, rest) => (some (text ++ front), ⟨rest, none, position.after front⟩)
  | none => (none, ⟨[], none, position.after source⟩)

theorem behindBody_append (text lead rest : List Char) (position : Position)
    (body : Option (List Char × List Char)) :
    behindBody (text ++ lead) rest (position.after lead) body =
      behindBody text (lead ++ rest) position
        (body.map fun split => (lead ++ split.1, split.2)) := by
  cases body <;> simp [behindBody]

theorem readComment_eq (depth : Nat) (text source : List Char) (position : Position) :
    (Tape.mk source none position).readComment depth text =
      behindBody text source position (restOfComment depth source) := by
  fun_induction restOfComment depth source generalizing text position with
  | case1 script => simp [readComment, behindBody]
  | case2 depth => simp [readComment, behindBody]
  | case3 depth rest induction =>
      rw [readComment]
      simp only [read_cons, peek_source, List.head?_cons, and_self, if_true, push_cons, induction,
        List.append_assoc]
      exact behindBody_append text ['*', '/'] rest position _
  | case4 depth rest induction =>
      rw [readComment]
      simp only [read_cons, peek_source, List.head?_cons, and_self, if_true, push_cons, induction,
        List.append_assoc]
      exact behindBody_append text ['/', '*'] rest position _
  | case5 depth character rest noCloser noOpener induction =>
      have notClosed : ¬ (character = '*' ∧ rest.head? = some '/') := by
        rintro ⟨isStar, head⟩
        rcases List.head?_eq_some_iff.mp head with ⟨behind, split⟩
        exact noCloser behind isStar split
      have notOpened : ¬ (character = '/' ∧ rest.head? = some '*') := by
        rintro ⟨isSlash, head⟩
        rcases List.head?_eq_some_iff.mp head with ⟨behind, split⟩
        exact noOpener behind isSlash split
      rw [readComment]
      simp only [read_cons, peek_source, if_neg notClosed, if_neg notOpened, induction]
      exact behindBody_append text [character] rest position _

theorem readLiteral_eq (closer : Char) (text source : List Char) (position : Position) :
    (Tape.mk source none position).readLiteral closer text =
      behindBody text source position (restOfLiteral closer source) := by
  fun_induction restOfLiteral closer source generalizing text position with
  | case1 => simp [readLiteral, behindBody]
  | case2 => simp [readLiteral, behindBody]
  | case3 character different => simp [readLiteral, behindBody, different]
  | case4 rest induction =>
      rw [readLiteral]
      simp only [read_cons, peek_source, List.head?_cons, if_true, push_cons, induction,
        List.append_assoc]
      exact behindBody_append text [closer, closer] rest position _
  | case5 second rest different =>
      rw [readLiteral]
      simp [behindBody, different]
  | case6 first second rest different induction =>
      rw [readLiteral]
      simp only [read_cons, if_neg different, induction]
      exact behindBody_append text [first] (second :: rest) position _

theorem readRegion_eq {kind : ElementKind} {first : Char} {rest : List Char}
    (starts : Starts kind (first :: rest)) (position : Position) :
    let following := (Cursor.mk (first :: rest) position).next
    (Tape.mk rest none (position.step first)).readRegion kind position first =
      (following.1, ⟨following.2.rest, none, following.2.position⟩) := by
  dsimp only
  generalize script : first :: rest = source at starts ⊢
  cases starts with
  | lineComment behind =>
      cases script
      rw [Cursor.next_lineComment, readRegion, readBody, push_cons]
      dsimp only
      rw [readLine_eq]
      rfl
  | blockComment behind =>
      cases script
      rw [Cursor.next_blockComment, readRegion, readBody, push_cons]
      dsimp only
      rw [readComment_eq]
      cases restOfComment 1 behind <;> rfl
  | literal quote behind =>
      cases script
      rw [Cursor.next_literal, readRegion, readBody, readLiteral_eq, Quote.closer]
      · cases restOfLiteral (Quote.closing quote.opener) rest <;> rfl
      · nofun
      · nofun

/-! ## One call -/

theorem specialStart_head? (first : Char) (rest : List Char) :
    specialStart (first :: rest.head?.toList) = specialStart (first :: rest) := by
  cases rest with
  | nil => rfl
  | cons second rest =>
      simp only [List.head?_cons, Option.toList_some, specialStart]
      split <;> split <;> simp_all

variable {tape : Tape} {first : Char} {rest : List Char}

theorem read_of_ahead_nil (atEnd : tape.ahead = []) : tape.read = none := by
  rcases tape with ⟨source, slot, position⟩
  rcases List.append_eq_nil_iff.mp atEnd with ⟨noSlot, rfl⟩
  cases slot with
  | none => rfl
  | some first => cases noSlot

theorem read_of_ahead_cons (ahead : tape.ahead = first :: rest) :
    tape.read = some (first, ⟨rest, none, tape.position.step first⟩) := by
  rcases tape with ⟨source, slot, position⟩
  cases slot with
  | some character =>
      cases ahead
      rfl
  | none =>
      rw [Tape.ahead, Option.toList_none, List.nil_append] at ahead
      cases ahead
      rfl

theorem scan_of_ahead_nil (atEnd : tape.ahead = []) (opened : Position) (text : List Char) :
    tape.scan opened text =
      if text = [] then (.ok .finished, tape)
      else (.ok (.element ⟨.text, text, opened, .endOfScript⟩), tape) := by
  rw [scan]
  split
  · rfl
  · rename_i taken
    rw [read_of_ahead_nil atEnd] at taken
    cases taken

theorem scan_of_ahead_cons (ahead : tape.ahead = first :: rest) (opened : Position)
    (text : List Char) :
    tape.scan opened text =
      match specialStart (first :: rest) with
      | some kind =>
        if text = [] then
          ((Tape.mk rest none (tape.position.step first)).readRegion kind opened first).map .ok id
        else (.ok (.element ⟨.text, text, opened, .before kind⟩), ⟨rest, some first, tape.position⟩)
      | none =>
        match lineTerminator? (first :: rest) with
        | some (terminator, behind) =>
          (.ok (.element ⟨.text, text ++ terminator, opened, .endOfLine⟩),
            ⟨behind, none, tape.position.after terminator⟩)
        | none => (Tape.mk rest none (tape.position.step first)).scan opened (text ++ [first]) := by
  rw [scan]
  split
  · rename_i nothing
    rw [read_of_ahead_cons ahead] at nothing
    cases nothing
  · rename_i character behind taken
    rw [read_of_ahead_cons ahead] at taken
    cases taken
    rw [peek_source, specialStart_head?]
    cases specialStart (first :: rest) with
    | some kind =>
        -- The slot behind a read character is empty, so it can be put back.
        dsimp only
        split <;> rfl
    | none =>
        rw [endLine?_eq]
        cases lineTerminator? (first :: rest) <;> rfl

/-- A run of plain text is read to its end, where something has been read of it or where it
starts. The induction is on what is ahead. -/
theorem scan_plain {source : List Char} (ahead : tape.ahead = source) (opened : Position)
    (text : List Char) (plain : text ≠ [] ∨ source ≠ [] ∧ specialStart source = none) :
    let run := textRun source
    ∃ left,
      tape.scan opened text =
          (.ok (.element ⟨.text, text ++ run.run, opened, run.ending⟩), left) ∧
        left.cursor = ⟨run.rest, tape.position.after run.run⟩ := by
  dsimp only
  induction source generalizing tape text with
  | nil =>
      have nonempty : text ≠ [] := plain.resolve_right fun more => more.1 rfl
      refine ⟨tape, ?_, ?_⟩
      · rw [scan_of_ahead_nil ahead, if_neg nonempty, textRun, List.append_nil]
      · rw [cursor, ahead]
        rfl
  | cons first rest induction =>
      rw [scan_of_ahead_cons ahead, textRun]
      cases special : specialStart (first :: rest) with
      | some kind =>
          have nonempty : text ≠ [] := by
            rcases plain with nonempty | ⟨-, notSpecial⟩
            · exact nonempty
            · rw [special] at notSpecial
              cases notSpecial
          refine ⟨⟨rest, some first, tape.position⟩, ?_, rfl⟩
          simp only [if_neg nonempty, List.append_nil]
      | none =>
          dsimp only
          cases lineTerminator? (first :: rest) with
          | some split => exact ⟨_, rfl, rfl⟩
          | none =>
              have longer : text ++ [first] ≠ [] := by simp
              rcases @induction ⟨rest, none, tape.position.step first⟩ rfl (text ++ [first])
                (.inl longer) with ⟨left, scanned, place⟩
              refine ⟨left, ?_, place⟩
              rw [List.append_assoc] at scanned
              exact scanned

/-- A call answers with what the next element of the script is and leaves the tape behind
it. So the slot is never found occupied. -/
theorem next_eq (tape : Tape) :
    ∃ left, tape.next = (.ok tape.cursor.next.1, left) ∧ left.cursor = tape.cursor.next.2 := by
  cases ahead : tape.ahead with
  | nil =>
      have atEnd : tape.cursor.rest = [] := ahead
      have stays := Cursor.next_of_rest_eq_nil atEnd
      refine ⟨tape, ?_, ?_⟩
      · rw [next, scan_of_ahead_nil ahead, if_pos rfl, stays]
      · rw [stays]
  | cons first rest =>
      cases special : specialStart (first :: rest) with
      | some kind =>
          have region := readRegion_eq (specialStart_eq_some_iff.mp special) tape.position
          dsimp only at region
          rw [next, scan_of_ahead_cons ahead, special, cursor, ahead]
          dsimp only
          rw [if_pos rfl, region]
          exact ⟨_, rfl, rfl⟩
      | none =>
          have nonempty := List.cons_ne_nil first rest
          have plain := specialStart_eq_none_iff.mp special
          rcases scan_plain ahead tape.position [] (.inr ⟨nonempty, special⟩) with
            ⟨left, scanned, place⟩
          rw [cursor, ahead, Cursor.next_eq_of_plain nonempty plain]
          exact ⟨left, scanned, place⟩

end Tape

/-! ## Places by counting -/

/-- The place behind a front of a script. Lines are counted by line feeds, and columns by
the characters behind the last line feed other than carriage returns. -/
def Position.behind (front : List Char) : Position :=
  ⟨1 + front.count '\n',
    1 + (front.reverse.takeWhile (· ≠ '\n')).countP (· ≠ '\r')⟩

theorem Position.after_start (front : List Char) :
    Position.start.after front = .behind front := by
  induction front using List.reverseRecOn with
  | nil => rfl
  | append_singleton front character induction =>
      rw [after_append, induction, after_cons, after_nil, step]
      unfold behind
      by_cases isFeed : character = '\n'
      · subst isFeed
        simp [Nat.add_assoc]
      · by_cases isReturn : character = '\r'
        · subst isReturn
          simp
        · simp [isFeed, isReturn, Nat.add_assoc]

namespace Cursor

theorem skip_takes (cursor : Cursor) (calls : Nat) :
    ∃ taken, cursor.rest = taken ++ (cursor.skip calls).rest ∧
      (cursor.skip calls).position = cursor.position.after taken := by
  induction calls generalizing cursor with
  | zero => exact ⟨[], rfl, rfl⟩
  | succ calls induction =>
      rcases next_takes cursor with ⟨first, split, place, -⟩
      rcases induction cursor.next.2 with ⟨taken, splitBehind, placeBehind⟩
      refine ⟨first ++ taken, ?_, ?_⟩
      · rw [split, splitBehind, List.append_assoc, skip]
      · rw [skip, placeBehind, place, Position.after_append]

end Cursor

namespace Tape

theorem cursor_next (tape : Tape) : tape.next.2.cursor = tape.cursor.next.2 := by
  rcases next_eq tape with ⟨left, called, place⟩
  rw [called, place]

theorem answer_next (tape : Tape) : tape.next.1 = .ok tape.cursor.next.1 := by
  rcases next_eq tape with ⟨left, called, -⟩
  rw [called]

theorem cursor_skip (tape : Tape) (calls : Nat) :
    (tape.skip calls).cursor = tape.cursor.skip calls := by
  induction calls generalizing tape with
  | zero => rfl
  | succ calls induction => rw [skip, induction, cursor_next, Cursor.skip]

/-- The tape stands in the place that counting gives for what has been read of a script; a
character that has been put back counts as not read. Asked once more it does not find the
slot occupied. It tells an element in the place of its first character, and a region that
never closes in the place of its opening. -/
def IsExact (tape : Tape) (script : List Char) : Prop :=
  ∃ consumed, script = consumed ++ tape.ahead ∧ tape.position = .behind consumed ∧
    match tape.next.1 with
    | .error _ => False
    | .ok (.element element) =>
      element.position = .behind consumed ∧ element.text ≠ [] ∧
        tape.ahead = element.text ++ tape.next.2.ahead
    | .ok (.unterminated region) =>
      region.position = .behind consumed ∧ tape.next.2.ahead = []
    | .ok .finished => tape.ahead = [] ∧ tape.next.2.ahead = []

theorem isExact_of_place {tape : Tape} {consumed : List Char}
    (place : tape.position = .behind consumed) : tape.IsExact (consumed ++ tape.ahead) := by
  have left : tape.next.2.ahead = tape.cursor.next.2.rest :=
    congrArg Cursor.rest (cursor_next tape)
  refine ⟨consumed, rfl, place, ?_⟩
  rw [answer_next, left]
  cases answer : tape.cursor.next.1 with
  | finished =>
      have atEnd := Cursor.next_finished_iff.mp answer
      rw [Cursor.next_of_rest_eq_nil atEnd]
      exact ⟨atEnd, atEnd⟩
  | unterminated region =>
      rcases Cursor.next_unterminated_iff.mp answer with ⟨unclosed, opening⟩
      rw [Cursor.next_of_unclosed unclosed]
      exact ⟨opening.trans place, rfl⟩
  | element element =>
      have whole : tape.cursor.next = (.element element, tape.cursor.next.2) :=
        Prod.ext answer rfl
      rcases Cursor.fits_of_next whole with ⟨rest, advanced, front, nonempty, first, -⟩
      rw [advanced]
      exact ⟨first.trans place, nonempty, front⟩

end Tape

/-- However often a tape has been asked for elements, also behind a region that never closes,
it is exact, and it answers as the scan of the script does. -/
theorem places_are_exact (script : List Char) (calls : Nat) :
    ((Tape.ofScript script).skip calls).IsExact script ∧
      ((Tape.ofScript script).skip calls).next.1 =
        .ok ((Cursor.ofScript script).skip calls).next.1 := by
  have reached : ((Tape.ofScript script).skip calls).cursor =
      (Cursor.ofScript script).skip calls := Tape.cursor_skip (.ofScript script) calls
  rcases Cursor.skip_takes (Cursor.ofScript script) calls with ⟨consumed, split, position⟩
  rw [← reached] at split position
  refine ⟨?_, ?_⟩
  · have whole : script = consumed ++ ((Tape.ofScript script).skip calls).ahead := split
    have isExact := Tape.isExact_of_place (position.trans (Position.after_start consumed))
    rw [← whole] at isExact
    exact isExact
  · rw [Tape.answer_next, reached]

/-- The quote has been read and put back, and the carriage return takes no column. -/
example : (Tape.ofScript "a\r\nbc'd'".toList).skip 2 =
    ⟨"d'".toList, some '\'', ⟨2, 3⟩⟩ := by
  decide +kernel

end Batchwise
