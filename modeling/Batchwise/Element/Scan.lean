import Batchwise.Element

namespace Batchwise

/-! Reading the elements of a script from left to right.

Each reader below takes the characters in front of it and splits them into the
ones it reads and the rest. Plain text stops behind a line terminator and in
front of any other kind of element; comments and literals run to their own
end, over as many lines as it takes. -/

def specialStart : List Char → Option ElementKind
  | '\'' :: _ => some (.literal .single)
  | '"' :: _ => some (.literal .double)
  | '[' :: _ => some (.literal .bracket)
  | '-' :: '-' :: _ => some .lineComment
  | '/' :: '*' :: _ => some .blockComment
  | _ => none

def lineTerminator? : List Char → Option (List Char × List Char)
  | '\r' :: '\n' :: rest => some (['\r', '\n'], rest)
  | '\n' :: rest => some (['\n'], rest)
  | '\r' :: rest => some (['\r'], rest)
  | _ => none

structure TextRun where
  run : List Char
  ending : Ending
  rest : List Char

def textRun (script : List Char) : TextRun :=
  match script with
  | [] => ⟨[], .endOfScript, []⟩
  | character :: rest =>
    match specialStart script with
    | some kind => ⟨[], .before kind, script⟩
    | none =>
      match lineTerminator? script with
      | some (terminator, rest) => ⟨terminator, .endOfLine, rest⟩
      | none =>
        let found := textRun rest
        ⟨character :: found.run, found.ending, found.rest⟩

def restOfLine (script : List Char) : List Char × List Char :=
  match script with
  | [] => ([], [])
  | character :: rest =>
    match lineTerminator? script with
    | some split => split
    | none =>
      let found := restOfLine rest
      (character :: found.1, found.2)

/-- The remainder of a block comment that has `depth` levels left to close.
Delimiters are read in pairs that share no character. -/
def restOfComment : Nat → List Char → Option (List Char × List Char)
  | 0, script => some ([], script)
  | _ + 1, [] => none
  | depth + 1, '*' :: '/' :: rest =>
    (restOfComment depth rest).map fun found => ('*' :: '/' :: found.1, found.2)
  | depth + 1, '/' :: '*' :: rest =>
    (restOfComment (depth + 2) rest).map fun found => ('/' :: '*' :: found.1, found.2)
  | depth + 1, character :: rest =>
    (restOfComment (depth + 1) rest).map fun found => (character :: found.1, found.2)

/-- The remainder of a literal: it ends at the first closing delimiter that is
not written twice. -/
def restOfLiteral (closer : Char) : List Char → Option (List Char × List Char)
  | [] => none
  | [character] => if character = closer then some ([character], []) else none
  | first :: second :: rest =>
    if first = closer then
      if second = closer then
        (restOfLiteral closer rest).map fun found => (first :: second :: found.1, found.2)
      else some ([first], second :: rest)
    else
      (restOfLiteral closer (second :: rest)).map fun found => (first :: found.1, found.2)

/-- Where a scan has come to: the characters still to be read, and the place of
the first of them. -/
structure Cursor where
  rest : List Char
  position : Position

/-- The kind of a comment or literal that the script never closes, and the
place of its opening delimiter. -/
structure Unterminated where
  kind : ElementKind
  position : Position
  deriving DecidableEq, Repr

inductive Scanned where
  | element (element : Element)
  | unterminated (region : Unterminated)
  | finished
  deriving DecidableEq, Repr

namespace Cursor

def ofScript (script : List Char) : Cursor :=
  ⟨script, .start⟩

def advance (cursor : Cursor) (read rest : List Char) : Cursor :=
  ⟨rest, cursor.position.after read⟩

/-- Close an element of the given kind whose opening is `opening`; a region
without an end takes everything up to the end of the script. -/
def close (cursor : Cursor) (kind : ElementKind) (opening : List Char)
    (body : Option (List Char × List Char)) : Scanned × Cursor :=
  match body with
  | some (read, rest) =>
    let text := opening ++ read
    (.element ⟨kind, text, cursor.position, .none⟩, cursor.advance text rest)
  | none => (.unterminated ⟨kind, cursor.position⟩, cursor.advance cursor.rest [])

def next (cursor : Cursor) : Scanned × Cursor :=
  match cursor.rest with
  | [] => (.finished, cursor)
  | first :: rest =>
    match specialStart cursor.rest with
    | none =>
      let found := textRun cursor.rest
      (.element ⟨.text, found.run, cursor.position, found.ending⟩,
        cursor.advance found.run found.rest)
    | some .lineComment =>
      cursor.close .lineComment ['-', '-'] (some (restOfLine (rest.drop 1)))
    | some .blockComment =>
      cursor.close .blockComment ['/', '*'] (restOfComment 1 (rest.drop 1))
    | some kind =>
      cursor.close kind [first] (restOfLiteral (Quote.closing first) rest)

end Cursor

/-! Each call that does not find the end of the script takes characters off it,
so reading a whole script ends. -/

theorem lineTerminator?_shorter {script : List Char} {split : List Char × List Char}
    (found : lineTerminator? script = some split) : split.2.length < script.length := by
  unfold lineTerminator? at found
  split at found
  · cases found
    exact Nat.lt_succ_of_lt (Nat.lt_succ_self _)
  · cases found
    exact Nat.lt_succ_self _
  · cases found
    exact Nat.lt_succ_self _
  · cases found

theorem textRun_length (script : List Char) :
    (textRun script).rest.length ≤ script.length := by
  induction script with
  | nil => simp [textRun]
  | cons character rest induction =>
    rw [textRun]
    split
    · simp
    · split
      · rename_i terminator remaining found
        exact Nat.le_of_lt (lineTerminator?_shorter found)
      · simp only [List.length_cons]
        omega

theorem textRun_shorter {script : List Char} (nonempty : script ≠ [])
    (plain : specialStart script = none) :
    (textRun script).rest.length < script.length := by
  cases script with
  | nil => exact absurd rfl nonempty
  | cons character rest =>
    unfold textRun
    simp only [plain]
    split
    · rename_i terminator remaining found
      have := lineTerminator?_shorter found
      simpa using this
    · have := textRun_length rest
      simp
      omega

theorem restOfLine_length (script : List Char) :
    (restOfLine script).2.length ≤ script.length := by
  induction script with
  | nil => simp [restOfLine]
  | cons character rest induction =>
    rw [restOfLine]
    split
    · rename_i found
      exact Nat.le_of_lt (lineTerminator?_shorter found)
    · simp only [List.length_cons]
      omega

theorem restOfComment_length {depth : Nat} {script : List Char}
    {split : List Char × List Char} (found : restOfComment depth script = some split) :
    split.2.length ≤ script.length := by
  fun_induction restOfComment depth script generalizing split with
  | case1 => simp at found; subst found; simp
  | case2 => simp at found
  | case3 depth rest induction | case4 depth rest induction
  | case5 depth character rest _ _ induction =>
    simp only [Option.map_eq_some_iff] at found
    obtain ⟨inner, eq, rfl⟩ := found
    have := induction eq
    simp
    omega

theorem restOfLiteral_length {closer : Char} {script : List Char}
    {split : List Char × List Char} (found : restOfLiteral closer script = some split) :
    split.2.length ≤ script.length := by
  fun_induction restOfLiteral closer script generalizing split with
  | case1 => simp at found
  | case2 => simp_all; subst found; simp
  | case3 => simp_all
  | case4 rest induction =>
    simp only [Option.map_eq_some_iff] at found
    obtain ⟨inner, eq, rfl⟩ := found
    have := induction eq
    simp
    omega
  | case5 => simp at found; subst found; simp
  | case6 first second rest _ induction =>
    simp only [Option.map_eq_some_iff] at found
    obtain ⟨inner, eq, rfl⟩ := found
    have := induction eq
    simp_all
    omega

namespace Cursor

theorem close_shorter {cursor : Cursor} {kind : ElementKind} {opening : List Char}
    {body : Option (List Char × List Char)} (nonempty : cursor.rest ≠ [])
    (shorter : ∀ split, body = some split → split.2.length < cursor.rest.length) :
    (cursor.close kind opening body).2.rest.length < cursor.rest.length := by
  unfold close
  split
  · exact shorter _ rfl
  · simpa [advance] using List.length_pos_iff.mpr nonempty

theorem next_shorter {cursor : Cursor} (nonempty : cursor.rest ≠ []) :
    cursor.next.2.rest.length < cursor.rest.length := by
  unfold next
  split
  · contradiction
  · rename_i first rest eq
    split
    · rename_i plain
      exact textRun_shorter nonempty plain
    · apply close_shorter nonempty
      rintro split ⟨⟩
      have := restOfLine_length (rest.drop 1)
      simp [eq] at *
      omega
    · apply close_shorter nonempty
      intro split found
      have := restOfComment_length found
      simp [eq] at *
      omega
    · apply close_shorter nonempty
      intro split found
      have := restOfLiteral_length found
      simp [eq] at *
      omega

theorem next_finished_iff {cursor : Cursor} :
    cursor.next.1 = .finished ↔ cursor.rest = [] := by
  unfold next close
  split
  · simp_all
  · simp_all
    repeat' split
    all_goals simp

end Cursor

/-- A script read into elements: those in front of the first region that never
closes, and that region if there is one. -/
structure Elements where
  elements : List Element
  unterminated : Option Unterminated

def Cursor.elements (cursor : Cursor) : Elements :=
  if _finished : cursor.rest = [] then ⟨[], none⟩
  else
    match cursor.next.1 with
    | .finished => ⟨[], none⟩
    | .unterminated region => ⟨[], some region⟩
    | .element element =>
      let following := cursor.next.2.elements
      ⟨element :: following.elements, following.unterminated⟩
termination_by cursor.rest.length
decreasing_by exact next_shorter ‹_›

end Batchwise
