import Batchwise.Proofs.Element.Tokenization

namespace Batchwise

/-! One script behind another. A reader looks at most two characters ahead, and never
past a line feed of plain text, so a scan starts anew behind one: the elements of the
whole are those of the first script and, so many lines further down, those of the
second. -/

/-! ## More script behind an element -/

theorem Starts.append {kind : ElementKind} {script : List Char} (starts : Starts kind script)
    (more : List Char) : Starts kind (script ++ more) := by
  cases starts with
  | literal quote rest => exact .literal quote (rest ++ more)
  | lineComment rest => exact .lineComment (rest ++ more)
  | blockComment rest => exact .blockComment (rest ++ more)

/-- Two characters are enough to see what starts. -/
theorem Starts.of_append {kind : ElementKind} {first second : Char} {script more : List Char}
    (starts : Starts kind (first :: second :: script ++ more)) :
    Starts kind (first :: second :: script) := by
  cases starts with
  | literal quote rest => exact .literal quote _
  | lineComment rest => exact .lineComment _
  | blockComment rest => exact .blockComment _

theorem not_starts_lineFeed {kind : ElementKind} {script : List Char} :
    ¬ Starts kind ('\n' :: script) := by
  intro starts
  generalize equal : '\n' :: script = whole at starts
  cases starts with
  | literal quote rest => cases quote <;> simp [Quote.opener] at equal
  | lineComment | blockComment => simp at equal

theorem head?_append_of_ne_nil {rest : List Char} (nonempty : rest ≠ []) (more : List Char) :
    (rest ++ more).head? = rest.head? := by
  cases rest with
  | nil => exact absurd rfl nonempty
  | cons character behind => rfl

/-- A terminator stays one when script is added, unless the script has ended behind
a lone carriage return. -/
theorem Terminator.append {terminator rest : List Char}
    (terminates : Terminator terminator rest) (more : List Char)
    (complete : rest ≠ [] ∨ terminator.getLast? = some '\n') :
    Terminator terminator (rest ++ more) := by
  cases terminates with
  | pair => exact .pair _
  | lineFeed => exact .lineFeed _
  | carriageReturn _ alone =>
      rcases complete with nonempty | lineFeed
      · apply Terminator.carriageReturn
        rwa [head?_append_of_ne_nil nonempty]
      · simp at lineFeed

theorem EndsLine.append {text rest : List Char} (ends : EndsLine text rest)
    (more : List Char) (nonempty : rest ≠ []) : EndsLine text (rest ++ more) := by
  rcases ends with ⟨body, ending, rfl, unbroken, terminates | ⟨-, nothing⟩⟩
  · exact ⟨body, ending, rfl, unbroken, .inl (terminates.append more (.inl nonempty))⟩
  · exact absurd nothing nonempty

theorem Closes.congr {depth : Int} {text rest : List Char} (closes : Closes depth text rest)
    (other : List Char) : Closes depth text other := by
  rcases closes with ⟨closed, shortest⟩
  refine ⟨⟨List.prefix_append _ _, closed.2⟩, ?_⟩
  rintro front ⟨isPrefix, level⟩
  by_contra shorter
  have within : front <+: text :=
    List.prefix_of_prefix_length_le isPrefix (List.prefix_append _ _) (by omega)
  have least := shortest front ⟨within.trans (List.prefix_append _ _), level⟩
  omega

theorem Delimits.append {closer : Char} {text rest : List Char}
    (delimits : Delimits closer text rest) (more : List Char) (nonempty : rest ≠ []) :
    Delimits closer text (rest ++ more) := by
  refine ⟨delimits.1, ?_⟩
  rw [head?_append_of_ne_nil nonempty]
  exact delimits.2

/-- Either something is behind the text, or it ends with a line feed. -/
def Sealed (text rest : List Char) : Prop :=
  rest ≠ [] ∨ text.getLast? = some '\n'

theorem IsPlain.append {text rest : List Char} (plain : IsPlain text rest)
    (more : List Char) (complete : Sealed text rest) : IsPlain text (rest ++ more) := by
  intro first second split nonempty kind starts
  have unmarked := plain first second split nonempty kind
  rw [← List.append_assoc] at starts
  cases seen : second ++ rest with
  | nil => exact nonempty (List.append_eq_nil_iff.mp seen).1
  | cons character behind =>
      rw [seen] at starts unmarked
      cases behind with
      | cons next behind => exact unmarked starts.of_append
      | nil =>
          -- The last character of the script is the line feed that ends the text.
          cases second with
          | nil => exact nonempty rfl
          | cons only following =>
              rcases List.cons.inj seen with ⟨rfl, nothing⟩
              rcases List.append_eq_nil_iff.mp nothing with ⟨rfl, rfl⟩
              have lineFeed := complete.resolve_left (fun other => other rfl)
              rw [split, List.getLast?_concat] at lineFeed
              cases lineFeed
              exact not_starts_lineFeed starts

theorem IsText.append {ending : Ending} {text rest : List Char}
    (isText : IsText ending text rest) (more : List Char) (complete : Sealed text rest) :
    IsText ending text (rest ++ more) := by
  rcases isText with ⟨plain, body, terminator, rfl, unbroken, stops⟩
  refine ⟨plain.append more complete, body, terminator, rfl, unbroken, ?_⟩
  cases stops with
  | endOfLine terminates =>
      refine .endOfLine (terminates.append more ?_)
      refine complete.imp_right fun lineFeed => ?_
      rwa [List.getLast?_append_of_ne_nil _ terminates.ne_nil] at lineFeed
  | endOfScript =>
      have lineFeed := complete.resolve_left (fun other => other rfl)
      rw [List.append_nil] at lineFeed
      exact absurd rfl (unbroken '\n' (List.mem_of_getLast? lineFeed)).2
  | before starts => exact .before (starts.append more)

theorem Element.Fits.append {element : Element} {rest : List Char}
    (fits : element.Fits rest) (more : List Char)
    (complete : rest ≠ [] ∨ element.kind = .text ∧ element.text.getLast? = some '\n') :
    element.Fits (rest ++ more) := by
  rcases element with ⟨kind, text, position, ending⟩
  cases kind with
  | text => exact IsText.append fits more (complete.imp_right And.right)
  | lineComment =>
      have nonempty := complete.resolve_right (by simp)
      rcases fits with ⟨noEnding, body, equal, ends⟩
      exact ⟨noEnding, body, equal, ends.append more nonempty⟩
  | blockComment =>
      rcases fits with ⟨noEnding, body, equal, closes⟩
      exact ⟨noEnding, body, equal, closes.congr _⟩
  | literal quote =>
      have nonempty := complete.resolve_right (by simp)
      rcases fits with ⟨noEnding, body, equal, delimits⟩
      exact ⟨noEnding, body, equal, delimits.append more nonempty⟩

def EndsInLineFeed (elements : List Element) : Prop :=
  ∀ last ∈ elements.getLast?, last.kind = .text ∧ last.text.getLast? = some '\n'

theorem EndsInLineFeed.tail {element : Element} {elements : List Element}
    (ends : EndsInLineFeed (element :: elements)) : EndsInLineFeed elements := by
  intro last isLast
  apply ends
  rw [List.getLast?_cons, Option.mem_def.mp isLast]
  rfl

theorem Cursor.elements_append {script : List Char} {position : Position}
    {elements : List Element} (more : List Char)
    (scanned : (Cursor.mk script position).elements = ⟨elements, none⟩)
    (ends : EndsInLineFeed elements) :
    (Cursor.mk (script ++ more) position).elements =
      ⟨elements ++ (Cursor.mk more (position.after script)).elements.elements,
        (Cursor.mk more (position.after script)).elements.unterminated⟩ := by
  rcases elements_eq_iff.mp scanned with ⟨tokenizes, placed⟩
  clear scanned
  induction elements generalizing script position with
  | nil =>
      have empty : script = [] := tokenizes_nil_iff.mp tokenizes
      rw [empty]
      rfl
  | cons element elements induction =>
      rcases tokenizes_cons_iff.mp tokenizes with ⟨rest, split, nonempty, fits, following⟩
      rcases placed_cons_iff.mp placed with ⟨place, placedBehind⟩
      dsimp only at split place placedBehind
      subst split
      have complete : rest ≠ [] ∨ element.kind = .text ∧ element.text.getLast? = some '\n' := by
        cases elements with
        | nil => exact .inr (ends element rfl)
        | cons other elements =>
            refine .inl fun empty => ?_
            rw [empty] at following
            have source := List.append_eq_nil_iff.mp following.source
            exact following.nonempty other List.mem_cons_self source.1
      have read : (Cursor.mk (element.text ++ rest ++ more) position).next =
          (.element element, ⟨rest ++ more, position.after element.text⟩) :=
        next_of_fits (List.append_assoc _ _ _) nonempty place (fits.append more complete)
      have behind : (Cursor.mk (rest ++ more) (position.after element.text)).elements = _ :=
        induction ends.tail following placedBehind
      rw [elements_of_next read, behind, Position.after_append]
      rfl

/-! ## A script further down -/

namespace Position

def down (lines : Nat) (position : Position) : Position :=
  ⟨position.line + lines, position.column⟩

theorem step_down (lines : Nat) (position : Position) (character : Char) :
    (position.down lines).step character = (position.step character).down lines := by
  unfold step down
  split
  · simp only [Nat.add_right_comm]
  · split <;> rfl

theorem after_down (lines : Nat) (position : Position) (text : List Char) :
    (position.down lines).after text = (position.after text).down lines := by
  induction text generalizing position with
  | nil => rfl
  | cons character rest induction => rw [after_cons, after_cons, step_down, induction]

theorem line_after (position : Position) (text : List Char) :
    (position.after text).line = position.line + text.count '\n' := by
  induction text generalizing position with
  | nil => rfl
  | cons character rest induction =>
      rw [after_cons, induction, List.count_cons]
      unfold step
      split
      · rename_i isLineFeed
        simp only [isLineFeed, beq_self_eq_true, if_true]
        omega
      · rename_i other
        have same : (character == '\n') = false := by simpa using other
        rw [same]
        split <;> rfl

theorem after_of_lineFeed {text : List Char} (lineFeed : text.getLast? = some '\n') :
    start.after text = start.down (text.count '\n') := by
  have line := line_after start text
  have column : (start.after text).column = 1 := by
    rcases List.getLast?_eq_some_iff.mp lineFeed with ⟨front, rfl⟩
    rw [after_append]
    rfl
  exact congrArg₂ Position.mk line column

end Position

def Element.down (lines : Nat) (element : Element) : Element :=
  { element with position := element.position.down lines }

def Unterminated.down (lines : Nat) (region : Unterminated) : Unterminated :=
  { region with position := region.position.down lines }

def Scanned.down (lines : Nat) : Scanned → Scanned
  | .element found => .element (found.down lines)
  | .unterminated region => .unterminated (region.down lines)
  | .finished => .finished

namespace Cursor

def down (lines : Nat) (cursor : Cursor) : Cursor :=
  { cursor with position := cursor.position.down lines }

theorem advance_down (lines : Nat) (cursor : Cursor) (read rest : List Char) :
    (cursor.down lines).advance read rest = (cursor.advance read rest).down lines := by
  have position := cursor.position.after_down lines read
  exact congrArg (Cursor.mk rest) position

theorem close_down (lines : Nat) (cursor : Cursor) (kind : ElementKind)
    (opening : List Char) (body : Option (List Char × List Char)) :
    (cursor.down lines).close kind opening body =
      ((cursor.close kind opening body).1.down lines,
        (cursor.close kind opening body).2.down lines) := by
  cases body with
  | none => exact congrArg (Prod.mk _) (advance_down lines cursor _ _)
  | some split => exact congrArg (Prod.mk _) (advance_down lines cursor _ _)

theorem next_down (lines : Nat) (cursor : Cursor) :
    (cursor.down lines).next = (cursor.next.1.down lines, cursor.next.2.down lines) := by
  rcases cursor with ⟨script, position⟩
  cases script with
  | nil => rfl
  | cons first rest =>
      unfold next
      have same : ((Cursor.mk (first :: rest) position).down lines).rest = first :: rest := rfl
      rw [same]
      dsimp only
      cases specialStart (first :: rest) with
      | none => exact congrArg (Prod.mk _) (advance_down lines _ _ _)
      | some kind =>
          cases kind with
          | text | lineComment | blockComment | literal => exact close_down lines _ _ _ _

theorem elements_down (lines : Nat) (cursor : Cursor) :
    (cursor.down lines).elements =
      ⟨cursor.elements.elements.map (Element.down lines),
        cursor.elements.unterminated.map (Unterminated.down lines)⟩ := by
  have following := next_down lines
  fun_induction Cursor.elements cursor with
  | case1 cursor atEnd =>
      rw [Cursor.elements, dif_pos (show (cursor.down lines).rest = [] from atEnd)]
      rfl
  | case2 cursor more finished =>
      rw [Cursor.elements, dif_neg (show (cursor.down lines).rest ≠ [] from more), following,
        finished]
      rfl
  | case3 cursor more region unterminated =>
      rw [Cursor.elements, dif_neg (show (cursor.down lines).rest ≠ [] from more), following,
        unterminated]
      rfl
  | case4 cursor more element read behind induction =>
      rw [Cursor.elements, dif_neg (show (cursor.down lines).rest ≠ [] from more), following,
        read]
      dsimp only [Scanned.down]
      rw [induction]
      rfl

end Cursor

theorem elements_ofScript_append {script : List Char} {elements : List Element}
    (more : List Char) (scanned : (Cursor.ofScript script).elements = ⟨elements, none⟩)
    (ends : EndsInLineFeed elements) (lineFeed : script.getLast? = some '\n') :
    (Cursor.ofScript (script ++ more)).elements =
      ⟨elements ++ (Cursor.ofScript more).elements.elements.map
          (Element.down (script.count '\n')),
        (Cursor.ofScript more).elements.unterminated.map
          (Unterminated.down (script.count '\n'))⟩ := by
  have behind : Cursor.mk more (Position.start.after script) =
      (Cursor.ofScript more).down (script.count '\n') := by
    rw [Position.after_of_lineFeed lineFeed]
    rfl
  have whole := Cursor.elements_append more scanned ends
  rw [behind, Cursor.elements_down] at whole
  exact whole

end Batchwise
