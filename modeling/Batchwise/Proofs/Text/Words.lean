import Batchwise.Text.Blank
import Mathlib.Data.List.TakeWhile

namespace Batchwise

/-! The words of a text. Blanks part them and belong to none of them, so a word is never
empty and there is nothing to trim from it. -/

structure IsWord (text : List Char) : Prop where
  nonempty : text ≠ []
  visible : ∀ character ∈ text, isBlank character = false

theorem isWord_iff {text : List Char} :
    IsWord text ↔ text ≠ [] ∧ text.any isBlank = false := by
  rw [List.any_eq_false]
  constructor
  · intro isWord
    exact ⟨isWord.nonempty,
      fun character member => Bool.eq_false_iff.mp (isWord.visible character member)⟩
  · intro both
    exact ⟨both.1,
      fun character member => Bool.eq_false_iff.mpr (both.2 character member)⟩

instance (text : List Char) : Decidable (IsWord text) :=
  decidable_of_iff _ isWord_iff.symm

theorem words_of_blank {character : Char} (blank : isBlank character = true)
    (rest : List Char) : words (character :: rest) = words rest := by
  rw [words, if_pos blank]

theorem isWord_singleton {character : Char} (visible : isBlank character = false) :
    IsWord [character] where
  nonempty := List.cons_ne_nil _ _
  visible := by simpa using visible

theorem IsWord.cons {character : Char} {word : List Char}
    (visible : isBlank character = false) (isWord : IsWord word) :
    IsWord (character :: word) where
  nonempty := List.cons_ne_nil _ _
  visible := List.forall_mem_cons.mpr ⟨visible, isWord.visible⟩

theorem isWord_of_mem_words {text word : List Char} (member : word ∈ words text) :
    IsWord word := by
  induction text generalizing word with
  | nil => cases member
  | cons character rest induction =>
      rw [words] at member
      split at member
      · exact induction member
      · rename_i notBlank
        have visible := Bool.eq_false_iff.mpr notBlank
        split at member
        · rcases List.mem_cons.mp member with rfl | behind
          · exact isWord_singleton visible
          · exact induction behind
        · cases behind : words rest with
          | nil =>
              rw [behind, extendFirst, List.mem_singleton] at member
              subst member
              exact isWord_singleton visible
          | cons first following =>
              rw [behind] at member induction
              rcases List.mem_cons.mp member with rfl | inFollowing
              · exact .cons visible (induction List.mem_cons_self)
              · exact induction (List.mem_cons_of_mem _ inFollowing)

theorem words_append {word : List Char} (isWord : IsWord word) {rest : List Char}
    (ends : rest.head?.all isBlank = true) : words (word ++ rest) = word :: words rest := by
  rcases isWord with ⟨nonempty, visible⟩
  induction word with
  | nil => exact absurd rfl nonempty
  | cons character behind induction =>
      rcases List.forall_mem_cons.mp visible with ⟨visibleFirst, visibleBehind⟩
      rw [List.cons_append, words, if_neg (Bool.eq_false_iff.mp visibleFirst)]
      cases behind with
      | nil => rw [List.nil_append, if_pos ends]
      | cons second behind =>
          have goesOn : ((second :: behind) ++ rest).head?.all isBlank = false :=
            visibleBehind second List.mem_cons_self
          rw [goesOn, if_neg Bool.false_ne_true,
            induction (List.cons_ne_nil _ _) visibleBehind, extendFirst]

theorem IsWord.trimStart_eq {word : List Char} (isWord : IsWord word) :
    trimStart word = word := by
  rw [trimStart, List.dropWhile_eq_self_iff]
  intro positive
  exact Bool.eq_false_iff.mp (isWord.visible _ (List.getElem_mem positive))

theorem IsWord.trim_eq {word : List Char} (isWord : IsWord word) : trim word = word := by
  have reversed : IsWord word.reverse :=
    ⟨List.reverse_ne_nil_iff.mpr isWord.nonempty,
      fun character member => isWord.visible character (List.mem_reverse.mp member)⟩
  rw [trim, isWord.trimStart_eq, trimEnd, reversed.trimStart_eq, List.reverse_reverse]

/-! ## Blanks around a word -/

def StandsAlone (word text : List Char) : Prop :=
  ∃ front back, text = front ++ word ++ back ∧
    (∀ character ∈ front, isBlank character = true) ∧
    ∀ character ∈ back, isBlank character = true

theorem trimStart_append {front : List Char}
    (blank : ∀ character ∈ front, isBlank character = true) (text : List Char) :
    trimStart (front ++ text) = trimStart text :=
  List.dropWhile_append_of_pos blank

theorem trimEnd_append {back : List Char}
    (blank : ∀ character ∈ back, isBlank character = true) (text : List Char) :
    trimEnd (text ++ back) = trimEnd text := by
  have reversed : ∀ character ∈ back.reverse, isBlank character = true :=
    fun character member => blank character (List.mem_reverse.mp member)
  rw [trimEnd, List.reverse_append, trimStart_append reversed, trimEnd]

theorem IsWord.trimStart_append_right {word : List Char} (isWord : IsWord word)
    (back : List Char) : trimStart (word ++ back) = word ++ back := by
  cases word with
  | nil => exact absurd rfl isWord.nonempty
  | cons character rest =>
      have visible := isWord.visible character List.mem_cons_self
      rw [trimStart, List.cons_append, List.dropWhile_cons_of_neg (by simp [visible])]

theorem standsAlone_trim (text : List Char) : StandsAlone (trim text) text := by
  have parted : ∀ text, text.takeWhile isBlank ++ trimStart text = text :=
    fun _ => List.takeWhile_append_dropWhile
  have stop : trim text ++ ((trimStart text).reverse.takeWhile isBlank).reverse =
      trimStart text := by
    rw [trim, trimEnd, ← List.reverse_append, parted, List.reverse_reverse]
  refine ⟨text.takeWhile isBlank, ((trimStart text).reverse.takeWhile isBlank).reverse, ?_,
    fun _ member => List.mem_takeWhile_imp member, ?_⟩
  · rw [List.append_assoc, stop, parted]
  · intro character member
    exact List.mem_takeWhile_imp (List.mem_reverse.mp member)

theorem trim_eq_nil_iff {text : List Char} :
    trim text = [] ↔ ∀ character ∈ text, isBlank character = true := by
  constructor
  · intro nothing
    rcases standsAlone_trim text with ⟨front, back, whole, blankFront, blankBack⟩
    rw [nothing, List.append_nil] at whole
    rw [whole]
    intro character member
    rcases List.mem_append.mp member with inFront | inBack
    · exact blankFront character inFront
    · exact blankBack character inBack
  · intro blank
    rw [trim, trimStart, List.dropWhile_eq_nil_iff.mpr blank]
    rfl

theorem IsWord.trim_eq_iff {word text : List Char} (isWord : IsWord word) :
    trim text = word ↔ StandsAlone word text := by
  constructor
  · rintro rfl
    exact standsAlone_trim text
  · rintro ⟨front, back, rfl, blankFront, blankBack⟩
    have own := isWord.trim_eq
    rw [trim, isWord.trimStart_eq] at own
    rw [trim, List.append_assoc, trimStart_append blankFront, isWord.trimStart_append_right,
      trimEnd_append blankBack, own]

end Batchwise
