import Batchwise.Proofs.Element.Tokenization
import Batchwise.Proofs.Text.Words
import Mathlib.Data.List.Infix

namespace Batchwise

/-! Text that is written down with care: nothing but plain text starts inside of it,
whatever stands around it. -/

theorem Starts.mem_first {kind : ElementKind} {character : Char} {rest : List Char}
    (starts : Starts kind (character :: rest)) :
    character ∈ ['\'', '"', '[', '-', '/'] := by
  generalize equal : character :: rest = whole at starts
  cases starts with
  | literal quote behind =>
      rcases List.cons.inj equal with ⟨rfl, -⟩
      cases quote <;> decide
  | lineComment | blockComment =>
      rcases List.cons.inj equal with ⟨rfl, -⟩
      decide

/-! ## A line of ordinary characters -/

def specialCharacters : List Char :=
  ['\'', '"', '[', '-', '/', '\r', '\n']

def isOrdinary (character : Char) : Bool :=
  !specialCharacters.contains character

theorem not_starts_of_isOrdinary {character : Char} (ordinary : isOrdinary character = true)
    (rest : List Char) (kind : ElementKind) : ¬ Starts kind (character :: rest) := by
  intro starts
  have first := starts.mem_first
  have special : character ∈ specialCharacters :=
    List.mem_append_left ['\r', '\n'] first
  simp [isOrdinary, special] at ordinary

theorem elements_of_line {body : List Char}
    (ordinary : ∀ character ∈ body, isOrdinary character = true) :
    (Cursor.ofScript (body ++ ['\n'])).elements =
      ⟨[⟨.text, body ++ ['\n'], .start, .endOfLine⟩], none⟩ := by
  have plain : IsPlain (body ++ ['\n']) [] := by
    induction body with
    | nil => exact (Terminator.lineFeed []).isPlain
    | cons character behind induction =>
        rcases List.forall_mem_cons.mp ordinary with ⟨first, others⟩
        exact isPlain_cons.mpr
          ⟨fun kind => not_starts_of_isOrdinary first _ kind, induction others⟩
  have unbroken : Unbroken body := by
    intro character member
    have isOrdinary := ordinary character member
    constructor
    · rintro rfl
      exact absurd isOrdinary (by decide)
    · rintro rfl
      exact absurd isOrdinary (by decide)
  rw [Cursor.elements_eq_iff, tokenizes_cons_iff, placed_cons_iff]
  refine ⟨⟨[], (List.append_nil _).symm, by simp, ?_, tokenizes_nil_iff.mpr rfl⟩, rfl,
    placed_nil _⟩
  exact ⟨plain, body, ['\n'], rfl, unbroken, .endOfLine (.lineFeed [])⟩

/-! ## Inert texts

A hyphen or a slash does no harm unless what stands behind it makes an opening of it. -/

structure IsInert (text : List Char) : Prop where
  noQuote : ∀ quote : Quote, quote.opener ∉ text
  noLineComment : ¬ ['-', '-'] <:+: text
  noBlockComment : ¬ ['/', '*'] <:+: text

theorem isInert_iff {text : List Char} :
    IsInert text ↔
      ('\'' ∉ text ∧ '"' ∉ text ∧ '[' ∉ text) ∧
        ¬ ['-', '-'] <:+: text ∧ ¬ ['/', '*'] <:+: text := by
  constructor
  · intro inert
    apply And.intro
    · exact ⟨inert.noQuote .single, inert.noQuote .double, inert.noQuote .bracket⟩
    · exact ⟨inert.noLineComment, inert.noBlockComment⟩
  · rintro ⟨⟨single, double, bracket⟩, noLineComment, noBlockComment⟩
    constructor
    · intro quote
      cases quote with
      | single => exact single
      | double => exact double
      | bracket => exact bracket
    · exact noLineComment
    · exact noBlockComment

instance (text : List Char) : Decidable (IsInert text) :=
  decidable_of_iff _ isInert_iff.symm

def openingCharacters : List Char :=
  ['\'', '"', '[', '-', '/', '*']

def isNeutral (character : Char) : Bool :=
  !openingCharacters.contains character

theorem not_starts_of_isNeutral {character : Char} (neutral : isNeutral character = true)
    (rest : List Char) (kind : ElementKind) : ¬ Starts kind (character :: rest) := by
  intro starts
  have first := starts.mem_first
  have special : character ∈ openingCharacters :=
    List.mem_append_left ['*'] first
  simp [isNeutral, special] at neutral

theorem isPlain_append {first second rest : List Char} :
    IsPlain (first ++ second) rest ↔ IsPlain first (second ++ rest) ∧ IsPlain second rest := by
  induction first with
  | nil => simp
  | cons character first induction =>
      rw [List.cons_append, isPlain_cons, isPlain_cons, induction, and_assoc,
        List.cons_append, List.cons_append, List.append_assoc]

/-- What begins in the text and is none of its own would need a second character behind it. -/
theorem IsInert.isPlain {text rest : List Char} (inert : IsInert text)
    (apart : ∀ character ∈ rest.head?, isNeutral character = true) : IsPlain text rest := by
  have neutral : ∀ {character behind}, rest = character :: behind → isNeutral character = true := by
    intro character behind split
    apply apart
    rw [split]
    rfl
  intro front back split nonempty kind starts
  have inside : back <:+: text := ⟨front, [], by rw [split, List.append_nil]⟩
  rcases back with _ | ⟨first, _ | ⟨second, more⟩⟩
  · exact nonempty rfl
  · cases starts with
    | literal quote behind => exact inert.noQuote quote (inside.subset List.mem_cons_self)
    | lineComment behind => exact absurd (neutral rfl) (by decide)
    | blockComment behind => exact absurd (neutral rfl) (by decide)
  · have isFront : [first, second] <:+: text :=
      (List.prefix_append [first, second] more).isInfix.trans inside
    cases starts with
    | literal quote behind => exact inert.noQuote quote (inside.subset List.mem_cons_self)
    | lineComment behind => exact inert.noLineComment isFront
    | blockComment behind => exact inert.noBlockComment isFront

theorem IsPlain.parted {text rest word : List Char} {character : Char}
    (plain : IsPlain text rest) (neutral : isNeutral character = true) (inert : IsInert word) :
    IsPlain (word ++ character :: text) rest := by
  apply isPlain_append.mpr
  constructor
  · apply inert.isPlain
    intro first isFirst
    cases isFirst
    exact neutral
  · apply isPlain_cons.mpr
    exact ⟨not_starts_of_isNeutral neutral _, plain⟩

theorem IsWord.unbroken {word : List Char} (isWord : IsWord word) : Unbroken word := by
  intro character member
  have visible := isWord.visible character member
  constructor
  · rintro rfl
    exact absurd visible (by decide)
  · rintro rfl
    exact absurd visible (by decide)

theorem unbroken_append {first second : List Char} :
    Unbroken (first ++ second) ↔ Unbroken first ∧ Unbroken second :=
  List.forall_mem_append

end Batchwise
