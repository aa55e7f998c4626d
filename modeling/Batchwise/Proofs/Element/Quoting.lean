import Batchwise.Proofs.Element.Tokenization

namespace Batchwise

/-! Quoting a text. Each closing delimiter is written twice, so the one that stands alone
behind the text is the end of the literal, and the literal stands for the text again. -/

def enclose (quote : Quote) (text : List Char) : List Char :=
  quote.opener :: (double quote.closer text ++ [quote.closer])

theorem undouble_cons_of_ne {closer first : Char} (different : first ≠ closer)
    (rest : List Char) : undouble closer (first :: rest) = first :: undouble closer rest := by
  cases rest with
  | nil => rfl
  | cons second rest => rw [undouble, if_neg (mt And.left different)]

/-- Pairs are taken from the left, and so a doubled text falls into the pairs it was made
with. -/
theorem undouble_double (closer : Char) (text : List Char) :
    undouble closer (double closer text) = text := by
  induction text with
  | nil => rfl
  | cons character rest induction =>
      by_cases same : character = closer
      · subst same
        rw [double_cons_self, undouble, if_pos ⟨rfl, rfl⟩, induction]
      · rw [double_cons_of_ne same, undouble_cons_of_ne same, induction]

theorem two_le_length_enclose (quote : Quote) (text : List Char) :
    2 ≤ (enclose quote text).length := by
  rw [enclose, List.length_cons, List.length_append, List.length_singleton]
  omega

namespace Element

def quoting (quote : Quote) (text : List Char) (position : Position) : Element :=
  ⟨.literal quote, enclose quote text, position, .none⟩

theorem content_of_enclose {element : Element} {quote : Quote} {text : List Char}
    (isLiteral : element.kind = .literal quote) (written : element.text = enclose quote text) :
    element.content = some text := by
  have literal : element.kind.isLiteral = true := by rw [isLiteral, ElementKind.isLiteral]
  rw [content, if_pos literal, written]
  change (double quote.closer text ++ [quote.closer]).getLast?.map (fun closer =>
    undouble closer (double quote.closer text ++ [quote.closer]).dropLast) = _
  rw [List.getLast?_concat, Option.map_some, List.dropLast_concat, undouble_double]

theorem Fits.enclosed {element : Element} {rest : List Char} (fits : element.Fits rest)
    {quote : Quote} (isLiteral : element.kind = .literal quote) :
    (∃ text, element.text = enclose quote text) ∧ rest.head? ≠ some quote.closer := by
  rw [Fits, isLiteral] at fits
  rcases fits with ⟨-, body, written, ⟨text, rfl⟩, alone⟩
  exact ⟨⟨text, written⟩, alone⟩

variable (quote : Quote) (text : List Char) (position : Position)

theorem content_quoting : (quoting quote text position).content = some text :=
  content_of_enclose rfl rfl

/-- A closing delimiter right behind the literal would be read as the second of a pair. -/
theorem fits_quoting {rest : List Char} (alone : rest.head? ≠ some quote.closer) :
    (quoting quote text position).Fits rest := by
  constructor
  · rfl
  · exact ⟨_, rfl, ⟨text, rfl⟩, alone⟩

end Element

theorem Cursor.next_enclose_iff (quote : Quote) (text rest : List Char)
    (position : Position) :
    (Cursor.mk (enclose quote text ++ rest) position).next =
        (.element (.quoting quote text position),
          ⟨rest, position.after (enclose quote text)⟩) ↔
      rest.head? ≠ some quote.closer := by
  constructor
  · intro read
    rcases fits_of_next read with ⟨behind, advanced, -, -, -, fits⟩
    cases advanced
    exact (fits.enclosed rfl).2
  · intro alone
    exact next_of_fits rfl (List.cons_ne_nil _ _) rfl (Element.fits_quoting _ _ _ alone)

/-- To quote a text and to scan a literal undo each other. The literal that a quoted text is
written as is read back, with the text as its content, in front of everything but one more
closing delimiter. Each literal that is read, wherever the scan has come to, has a content,
and the content in quotes is the literal. -/
theorem quoting_inverts_scanning (quote : Quote) :
    (∀ (text rest : List Char) (position : Position),
      (Element.quoting quote text position).content = some text ∧
        ((Cursor.mk (enclose quote text ++ rest) position).next =
            (.element (.quoting quote text position),
              ⟨rest, position.after (enclose quote text)⟩) ↔
          rest.head? ≠ some quote.closer)) ∧
      ∀ (cursor : Cursor) (element : Element), cursor.next.1 = .element element →
        element.kind = .literal quote →
          ∃ text, element.content = some text ∧ enclose quote text = element.text ∧
            2 ≤ element.text.length := by
  constructor
  · intro text rest position
    exact ⟨Element.content_quoting _ _ _, Cursor.next_enclose_iff _ _ _ _⟩
  · intro cursor element read isLiteral
    have whole : cursor.next = (.element element, cursor.next.2) := Prod.ext read rfl
    rcases Cursor.fits_of_next whole with ⟨rest, -, -, -, -, fits⟩
    rcases (fits.enclosed isLiteral).1 with ⟨text, written⟩
    refine ⟨text, Element.content_of_enclose isLiteral written, written.symm, ?_⟩
    rw [written]
    exact two_le_length_enclose quote text

/-- The text starts and ends with closing delimiters, and the rest is a literal that does not
close. -/
theorem quoting_inverts_scanning_of_brackets :
    let literal := Element.quoting .bracket "]a]]".toList .start
    (Cursor.ofScript "[]]a]]]]][b]]".toList).next.1 = .element literal ∧
      ∃ text, literal.content = some text ∧ enclose .bracket text = "[]]a]]]]]".toList := by
  intro literal
  have read := ((quoting_inverts_scanning .bracket).1 "]a]]".toList "[b]]".toList
    .start).2.mpr (by decide)
  have answer := congrArg Prod.fst read
  rcases (quoting_inverts_scanning .bracket).2 _ literal answer rfl with
    ⟨text, content, quoted, -⟩
  exact ⟨answer, text, content, quoted⟩

end Batchwise
