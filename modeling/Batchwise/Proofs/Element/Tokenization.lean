import Batchwise.Proofs.Element.Reading
import Mathlib.Data.List.Chain

namespace Batchwise

/-! A scan that meets no unterminated region finds the one way in which a script
falls into elements. -/

theorem tokenizes_nil_iff {script : List Char} : Tokenizes [] script ↔ script = [] := by
  constructor
  · intro tokenizes
    exact tokenizes.source.symm
  · rintro rfl
    exact ⟨rfl, by simp, fun preceding _ _ equal => by simp at equal⟩

theorem tokenizes_cons_iff {element : Element} {elements : List Element}
    {script : List Char} :
    Tokenizes (element :: elements) script ↔
      ∃ rest, script = element.text ++ rest ∧ element.text ≠ [] ∧ element.Fits rest ∧
        Tokenizes elements rest := by
  constructor
  · intro tokenizes
    have nonempty := List.forall_mem_cons.mp tokenizes.nonempty
    refine ⟨sourceOf elements, tokenizes.source.symm, nonempty.1,
      tokenizes.fits [] element elements rfl, rfl, nonempty.2, ?_⟩
    intro preceding other following equal
    exact tokenizes.fits (element :: preceding) other following (congrArg _ equal)
  · rintro ⟨rest, rfl, nonempty, fits, tokenizes⟩
    refine ⟨congrArg _ tokenizes.source,
      List.forall_mem_cons.mpr ⟨nonempty, tokenizes.nonempty⟩, ?_⟩
    intro preceding other following equal
    cases preceding with
    | nil =>
      cases equal
      exact tokenizes.source ▸ fits
    | cons head preceding =>
      exact tokenizes.fits preceding other following (List.cons.inj equal).2

theorem placed_nil (start : Position) : Placed start [] :=
  fun preceding _ _ equal => by simp at equal

theorem placed_cons_iff {start : Position} {element : Element} {elements : List Element} :
    Placed start (element :: elements) ↔
      element.position = start ∧ Placed (start.after element.text) elements := by
  constructor
  · intro placed
    refine ⟨placed [] element elements rfl, ?_⟩
    intro preceding other following equal
    have position := placed (element :: preceding) other following (congrArg _ equal)
    rwa [sourceOf_cons, Position.after_append] at position
  · rintro ⟨position, placed⟩ preceding other following equal
    cases preceding with
    | nil =>
      cases equal
      exact position
    | cons head preceding =>
      rcases List.cons.inj equal with ⟨rfl, split⟩
      rw [sourceOf_cons, Position.after_append]
      exact placed preceding other following split

namespace Cursor

/-! ## One element -/

theorem close_eq_element_iff {cursor following : Cursor} {kind : ElementKind}
    {opening : List Char} {body : Option (List Char × List Char)} {element : Element} :
    cursor.close kind opening body = (.element element, following) ↔
      ∃ text rest, body = some (text, rest) ∧
        element = ⟨kind, opening ++ text, cursor.position, .none⟩ ∧
        following = cursor.advance (opening ++ text) rest := by
  cases body with
  | none => simp [close]
  | some split => simp [close, eq_comm, Prod.ext_iff, and_assoc]

theorem next_eq_of_plain {script : List Char} {position : Position} (nonempty : script ≠ [])
    (plain : ∀ kind, ¬ Starts kind script) :
    (Cursor.mk script position).next =
      (.element ⟨.text, (textRun script).run, position, (textRun script).ending⟩,
        (Cursor.mk script position).advance (textRun script).run (textRun script).rest) := by
  have notSpecial := specialStart_eq_none_iff.mpr plain
  cases script with
  | nil => exact absurd rfl nonempty
  | cons first rest => simp only [next, notSpecial]

theorem next_lineComment (rest : List Char) (position : Position) :
    (Cursor.mk ('-' :: '-' :: rest) position).next =
      close ⟨'-' :: '-' :: rest, position⟩ .lineComment ['-', '-'] (some (restOfLine rest)) :=
  rfl

theorem next_blockComment (rest : List Char) (position : Position) :
    (Cursor.mk ('/' :: '*' :: rest) position).next =
      close ⟨'/' :: '*' :: rest, position⟩ .blockComment ['/', '*'] (restOfComment 1 rest) :=
  rfl

theorem next_literal (quote : Quote) (rest : List Char) (position : Position) :
    (Cursor.mk (quote.opener :: rest) position).next =
      close ⟨quote.opener :: rest, position⟩ (.literal quote) [quote.opener]
        (restOfLiteral quote.closer rest) := by
  cases quote <;> rfl

theorem fits_of_next {cursor following : Cursor} {element : Element}
    (read : cursor.next = (.element element, following)) :
    ∃ rest, following = cursor.advance element.text rest ∧
      cursor.rest = element.text ++ rest ∧ element.text ≠ [] ∧
      element.position = cursor.position ∧ element.Fits rest := by
  rcases cursor with ⟨script, position⟩
  by_cases plain : ∀ kind, ¬ Starts kind script
  · rcases eq_or_ne script [] with rfl | nonempty
    · cases read
    · rw [next_eq_of_plain nonempty plain] at read
      cases read
      rcases textRun_eq_iff.mp (Eq.refl (textRun script)) with ⟨equal, fits⟩
      refine ⟨_, rfl, equal, ?_, rfl, fits⟩
      intro empty
      have shorter := textRun_shorter nonempty (specialStart_eq_none_iff.mpr plain)
      replace empty : (textRun script).run = [] := empty
      rw [empty, List.nil_append] at equal
      exact absurd (congrArg List.length equal) (Nat.ne_of_gt shorter)
  · rcases not_forall_not.mp plain with ⟨kind, starts⟩
    cases starts with
    | literal quote behind =>
      rw [next_literal, close_eq_element_iff] at read
      rcases read with ⟨text, rest, body, rfl, rfl⟩
      rcases restOfLiteral_eq_some_iff.mp body with ⟨rfl, delimits⟩
      exact ⟨rest, rfl, rfl, List.cons_ne_nil _ _, rfl, rfl, text, rfl, delimits⟩
    | lineComment behind =>
      rw [next_lineComment, close_eq_element_iff] at read
      rcases read with ⟨text, rest, body, rfl, rfl⟩
      rcases restOfLine_eq_iff.mp (Option.some.inj body) with ⟨rfl, ends⟩
      exact ⟨rest, rfl, rfl, List.cons_ne_nil _ _, rfl, rfl, text, rfl, ends⟩
    | blockComment behind =>
      rw [next_blockComment, close_eq_element_iff] at read
      rcases read with ⟨text, rest, body, rfl, rfl⟩
      rcases restOfComment_eq_some_iff.mp body with ⟨rfl, closes⟩
      exact ⟨rest, rfl, rfl, List.cons_ne_nil _ _, rfl, rfl, text, rfl, closes⟩

theorem next_of_fits {cursor : Cursor} {element : Element} {rest : List Char}
    (split : cursor.rest = element.text ++ rest) (nonempty : element.text ≠ [])
    (place : element.position = cursor.position) (fits : element.Fits rest) :
    cursor.next = (.element element, cursor.advance element.text rest) := by
  rcases cursor with ⟨script, position⟩
  rcases element with ⟨kind, text, position, ending⟩
  dsimp only at split nonempty place
  subst split
  subst place
  cases kind with
  | text =>
    have found := textRun_eq_iff.mpr ⟨rfl, fits⟩
    have notEmpty : text ++ rest ≠ [] := by simp [nonempty]
    rw [next_eq_of_plain notEmpty (fits.1 [] text rfl nonempty), found]
  | lineComment =>
    rcases fits with ⟨rfl, body, rfl, ends⟩
    have found := restOfLine_eq_iff.mpr ⟨rfl, ends⟩
    exact (next_lineComment _ _).trans
      (close_eq_element_iff.mpr ⟨body, rest, congrArg some found, rfl, rfl⟩)
  | blockComment =>
    rcases fits with ⟨rfl, body, rfl, closes⟩
    have found := restOfComment_eq_some_iff.mpr ⟨rfl, closes⟩
    exact (next_blockComment _ _).trans
      (close_eq_element_iff.mpr ⟨body, rest, found, rfl, rfl⟩)
  | literal quote =>
    rcases fits with ⟨rfl, body, rfl, delimits⟩
    have found := restOfLiteral_eq_some_iff.mpr ⟨rfl, delimits⟩
    exact (next_literal _ _ _).trans
      (close_eq_element_iff.mpr ⟨body, rest, found, rfl, rfl⟩)

/-! ## A whole script -/

theorem elements_of_rest_eq_nil {cursor : Cursor} (atEnd : cursor.rest = []) :
    cursor.elements = ⟨[], none⟩ := by
  rw [elements, dif_pos atEnd]

theorem elements_of_next {cursor following : Cursor} {element : Element}
    (read : cursor.next = (.element element, following)) :
    cursor.elements =
      ⟨element :: following.elements.elements, following.elements.unterminated⟩ := by
  have more : cursor.rest ≠ [] := by
    intro atEnd
    have finished := next_finished_iff.mpr atEnd
    rw [read] at finished
    cases finished
  rw [elements, dif_neg more, read]

theorem elements_eq_iff {cursor : Cursor} {elements : List Element} :
    cursor.elements = ⟨elements, none⟩ ↔
      Tokenizes elements cursor.rest ∧ Placed cursor.position elements := by
  constructor
  · intro scanned
    fun_induction Cursor.elements cursor generalizing elements with
    | case1 cursor atEnd =>
      cases scanned
      exact ⟨tokenizes_nil_iff.mpr atEnd, placed_nil _⟩
    | case2 cursor more finished => exact absurd (next_finished_iff.mp finished) more
    | case3 => cases scanned
    | case4 cursor more element read following =>
      rename_i induction
      rcases Elements.mk.inj scanned with ⟨rfl, noRegion⟩
      have whole : cursor.next = (.element element, cursor.next.2) := Prod.ext read rfl
      rcases fits_of_next whole with ⟨rest, advanced, split, nonempty, position, fits⟩
      have behind : Tokenizes following.elements cursor.next.2.rest ∧
          Placed cursor.next.2.position following.elements :=
        induction (congrArg (Elements.mk _) noRegion)
      rw [advanced] at behind
      refine ⟨tokenizes_cons_iff.mpr ⟨rest, split, nonempty, fits, behind.1⟩, ?_⟩
      exact placed_cons_iff.mpr ⟨position, behind.2⟩
  · rintro ⟨tokenizes, placed⟩
    induction elements generalizing cursor with
    | nil => exact elements_of_rest_eq_nil (tokenizes_nil_iff.mp tokenizes)
    | cons element elements induction =>
      rcases tokenizes_cons_iff.mp tokenizes with ⟨rest, split, nonempty, fits, tokenizes⟩
      rcases placed_cons_iff.mp placed with ⟨position, placed⟩
      have read := next_of_fits split nonempty position fits
      rw [elements_of_next read, induction tokenizes placed]

end Cursor

/-! ## Neighbours

A run of plain text names the kind of what comes right behind it. -/

theorem Starts.unique {script : List Char} {first second : ElementKind}
    (starts : Starts first script) (startsToo : Starts second script) : first = second := by
  rw [← specialStart_eq_some_iff] at starts startsToo
  exact Option.some.inj (starts.symm.trans startsToo)

theorem Element.Fits.kind_eq {element : Element} {rest : List Char} {kind : ElementKind}
    (fits : element.Fits rest) (nonempty : element.text ≠ [])
    (starts : Starts kind (element.text ++ rest)) : element.kind = kind := by
  rcases element with ⟨own, text, position, ending⟩
  cases own with
  | text => exact absurd starts (fits.1 [] text rfl nonempty kind)
  | lineComment =>
    rcases fits with ⟨-, body, rfl, -⟩
    exact (Starts.lineComment (body ++ rest)).unique starts
  | blockComment =>
    rcases fits with ⟨-, body, rfl, -⟩
    exact (Starts.blockComment (body ++ rest)).unique starts
  | literal quote =>
    rcases fits with ⟨-, body, rfl, -⟩
    exact (Starts.literal quote (body ++ rest)).unique starts

theorem Element.Fits.starts {element : Element} {rest : List Char} {kind : ElementKind}
    (fits : element.Fits rest) (ends : element.ending = .before kind) : Starts kind rest := by
  rcases element with ⟨own, text, position, ending⟩
  cases own with
  | text =>
    rcases fits with ⟨-, body, terminator, -, -, stops⟩
    dsimp only at ends
    subst ends
    cases stops with
    | before starts => exact starts
  | lineComment | blockComment | literal => exact absurd (fits.1.symm.trans ends) (by simp)

def Element.Announces (element following : Element) : Prop :=
  ∀ kind, element.ending = .before kind → following.kind = kind

namespace Cursor

theorem next_of_mem_head? {cursor : Cursor} {element : Element}
    (first : element ∈ cursor.elements.elements.head?) :
    ∃ following, cursor.next = (.element element, following) := by
  rw [elements] at first
  split at first
  · cases first
  · split at first
    · cases first
    · cases first
    · rename_i other read
      cases first
      exact ⟨_, Prod.ext read rfl⟩

theorem announces_elements (cursor : Cursor) :
    List.IsChain Element.Announces cursor.elements.elements := by
  fun_induction Cursor.elements cursor with
  | case1 | case2 | case3 => exact .nil
  | case4 cursor more element read following =>
    rename_i induction
    refine List.isChain_cons.mpr ⟨?_, induction⟩
    intro neighbour first kind ends
    have whole : cursor.next = (.element element, cursor.next.2) := Prod.ext read rfl
    rcases fits_of_next whole with ⟨rest, advanced, -, -, -, fits⟩
    rcases next_of_mem_head? first with ⟨behind, readNext⟩
    rcases fits_of_next readNext with ⟨after, -, split, nonempty, -, fitsNext⟩
    have sameRest : rest = neighbour.text ++ after := by
      rw [advanced] at split
      exact split
    have starts := fits.starts ends
    rw [sameRest] at starts
    exact fitsNext.kind_eq nonempty starts

end Cursor

/-! ## Uniqueness

A place is no part of the grammar: the elements of any tokenization can be put in
the places where they start. -/

def placeFrom (start : Position) : List Element → List Element
  | [] => []
  | element :: following =>
    { element with position := start } :: placeFrom (start.after element.text) following

@[simp] theorem lexemes_placeFrom (start : Position) (elements : List Element) :
    (placeFrom start elements).map Element.lexeme = elements.map Element.lexeme := by
  induction elements generalizing start with
  | nil => rfl
  | cons element following induction =>
    rw [placeFrom, List.map_cons, List.map_cons, induction]
    rfl

theorem placed_placeFrom (start : Position) (elements : List Element) :
    Placed start (placeFrom start elements) := by
  induction elements generalizing start with
  | nil => exact placed_nil start
  | cons element following induction => exact placed_cons_iff.mpr ⟨rfl, induction _⟩

theorem Tokenizes.placeFrom {elements : List Element} {script : List Char}
    (tokenizes : Tokenizes elements script) (start : Position) :
    Tokenizes (placeFrom start elements) script := by
  induction elements generalizing script start with
  | nil => exact tokenizes
  | cons element following induction =>
    rcases tokenizes_cons_iff.mp tokenizes with ⟨rest, split, nonempty, fits, tokenizes⟩
    exact tokenizes_cons_iff.mpr ⟨rest, split, nonempty, fits, induction tokenizes _⟩

theorem Tokenizes.elements_eq {elements : List Element} {script : List Char}
    (tokenizes : Tokenizes elements script) :
    (Cursor.ofScript script).elements = ⟨Batchwise.placeFrom .start elements, none⟩ :=
  Cursor.elements_eq_iff.mpr ⟨tokenizes.placeFrom _, placed_placeFrom _ _⟩

/-- Scanning a script to its end meets no unterminated region and gives `elements`
exactly when they are the one tokenization of the script, each with the place of
its first character. -/
theorem elements_eq_iff_unique_tokenization (script : List Char) (elements : List Element) :
    (Cursor.ofScript script).elements = ⟨elements, none⟩ ↔
      (Tokenizes elements script ∧ Placed .start elements) ∧
        ∀ other, Tokenizes other script →
          other.map Element.lexeme = elements.map Element.lexeme := by
  constructor
  · intro scanned
    refine ⟨Cursor.elements_eq_iff.mp scanned, ?_⟩
    intro other tokenizes
    have again : (Cursor.ofScript script).elements = ⟨placeFrom .start other, none⟩ :=
      Cursor.elements_eq_iff.mpr ⟨tokenizes.placeFrom _, placed_placeFrom _ _⟩
    rcases Elements.mk.inj (scanned.symm.trans again) with ⟨rfl, -⟩
    exact (lexemes_placeFrom _ _).symm
  · rintro ⟨tokenization, -⟩
    exact Cursor.elements_eq_iff.mpr tokenization

end Batchwise
