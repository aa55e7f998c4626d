import Batchwise.Proofs.Element.Concatenation
import Batchwise.Proofs.Element.PlainText
import Batchwise.Proofs.Pass.Independence
import Batchwise.Proofs.Text.Words

namespace Batchwise

/-! A line that holds a separator, with or without a count. Whatever the count is, the line
is scanned as one run of plain text and read back as that count. -/

/-! ## Decimal digits -/

section Digit

variable {digit : Char} (isDigit : digit.isDigit = true)

include isDigit

theorem toNat_of_isDigit : 48 ≤ digit.toNat ∧ digit.toNat ≤ 57 := by
  rw [Char.isDigit, Bool.and_eq_true, decide_eq_true_iff, decide_eq_true_iff] at isDigit
  exact isDigit

theorem visible_of_isDigit : isBlank digit = false := by
  have bounds := toNat_of_isDigit isDigit
  simp only [isBlank, blankRanges, List.any_cons, List.any_nil, Bool.or_false,
    Bool.or_eq_false_iff, Bool.and_eq_false_iff, decide_eq_false_iff_not]
  omega

theorem isOrdinary_of_isDigit : isOrdinary digit = true := by
  have noDigit : specialCharacters.any Char.isDigit = false := by decide
  by_contra special
  have member : digit ∈ specialCharacters := by simpa [isOrdinary] using special
  exact absurd isDigit (List.any_eq_false.mp noDigit digit member)

end Digit

theorem isDigit_of_mem {count : Nat} {digit : Char} (member : digit ∈ Nat.toDigits 10 count) :
    digit.isDigit = true :=
  Nat.isDigit_of_mem_toDigits (by decide) (by decide) member

theorem isWord_toDigits (count : Nat) : IsWord (Nat.toDigits 10 count) where
  nonempty := Nat.toDigits_ne_nil
  visible := fun _ member => visible_of_isDigit (isDigit_of_mem member)

theorem readWhole_toDigits (count : Nat) :
    readWhole (Nat.toDigits 10 count) = some (count : Int) := by
  have value : numberOf (Nat.toDigits 10 count) = count := Nat.ofDigitChars_ten_toDigits
  have digits : (Nat.toDigits 10 count).all Char.isDigit = true :=
    List.all_eq_true.mpr fun _ member => isDigit_of_mem member
  have nonempty : (Nat.toDigits 10 count).isEmpty = false :=
    List.isEmpty_eq_false_iff.mpr Nat.toDigits_ne_nil
  -- A number is written without a sign, so the first character is a digit too.
  have unsigned : ∀ sign rest, Nat.toDigits 10 count = sign :: rest → sign.isDigit = true := by
    intro sign rest split
    have member : sign ∈ Nat.toDigits 10 count := by
      rw [split]
      exact List.mem_cons_self
    exact isDigit_of_mem member
  rw [readWhole]
  · simp [nonempty, digits, value]
  · intro rest split
    exact absurd (unsigned _ rest split) (by decide)
  · intro rest split
    exact absurd (unsigned _ rest split) (by decide)

theorem readCount_toDigits {count : Nat} (few : count ≤ 2147483647) :
    readCount (Nat.toDigits 10 count) = some (count : Int) := by
  rw [readCount, (isWord_toDigits count).trim_eq, readWhole_toDigits, Option.filter_some,
    if_pos]
  simp only [Bool.and_eq_true, decide_eq_true_iff]
  omega

/-! ## Separator lines -/

def separatorLine : Option Nat → List Char
  | none => "GO\n".toList
  | some count => 'G' :: 'O' :: ' ' :: Nat.toDigits 10 count ++ ['\n']

def separator (count : Option Nat) : Element :=
  ⟨.text, separatorLine count, .start, .endOfLine⟩

theorem elements_separatorLine (count : Option Nat) :
    (Cursor.ofScript (separatorLine count)).elements = ⟨[separator count], none⟩ := by
  cases count with
  | none => exact @elements_of_line ['G', 'O'] (List.all_eq_true.mp (by decide))
  | some count =>
      apply @elements_of_line ('G' :: 'O' :: ' ' :: Nat.toDigits 10 count)
      intro character member
      simp only [List.mem_cons] at member
      rcases member with rfl | rfl | rfl | digit
      · decide
      · decide
      · decide
      · exact isOrdinary_of_isDigit (isDigit_of_mem digit)

example : (Cursor.ofScript "GO 12\n".toList).elements.elements = [separator (some 12)] := by
  decide +kernel

theorem words_separatorLine (count : Option Nat) :
    words (separatorLine count) = "GO".toList :: (count.map (Nat.toDigits 10)).toList := by
  cases count with
  | none => decide
  | some count =>
      have keyword : IsWord "GO".toList := .cons (by decide) (isWord_singleton (by decide))
      have behind : words (' ' :: (Nat.toDigits 10 count ++ ['\n'])) =
          [Nat.toDigits 10 count] := by
        rw [words_of_blank (by decide), words_append (isWord_toDigits count) (by decide)]
        rfl
      exact (words_append keyword (by rfl)).trans (congrArg ("GO".toList :: ·) behind)

section Separator

variable {count : Option Nat} {lines : Nat}

theorem isSeparator_separator : ((separator count).down lines).isSeparator = true := by
  have isText : ((separator count).down lines).kind = .text := rfl
  rw [Line.isSeparator_of_words isText (words_separatorLine count)]
  decide

theorem separatorCount_separator (few : ∀ times ∈ count, times ≤ 2147483647)
    (context : Context) :
    context.separatorCount ((separator count).down lines) = some ((count.getD 1 : Nat) : Int) := by
  have split : words ((separator count).down lines).text = _ := words_separatorLine count
  rw [Context.separatorCount, split]
  cases count with
  | none => rfl
  | some count =>
      have noOpening : ¬ referenceOpening <:+: Nat.toDigits 10 count := by
        intro opening
        have member : '$' ∈ Nat.toDigits 10 count := opening.subset List.mem_cons_self
        exact absurd (isDigit_of_mem member) (by decide)
      change readCount (context.expand (Nat.toDigits 10 count)) = _
      rw [context.expand_of_no_opening noOpening]
      exact readCount_toDigits (few count rfl)

end Separator

end Batchwise
