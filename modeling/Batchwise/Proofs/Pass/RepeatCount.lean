import Batchwise.Proofs.Pass.Construct
import Batchwise.Proofs.Pass.SeparatorLine
import Mathlib.Data.Nat.Digits.Defs

namespace Batchwise

/-! Which counts a separator takes. The word behind it is expanded, and what is left of it
between blanks has to be a whole number of 32 bits in decimal digits, with a sign or without
one. Everything else is malformed. -/

/-! ## Whole numbers -/

structure IsNumeral (digits : List Char) : Prop where
  nonempty : digits ≠ []
  decimal : ∀ digit ∈ digits, digit.isDigit = true

/-- The number that digits write. The last digit counts ones, and each other digit ten times
what the one behind it counts. -/
def numeralValue (digits : List Char) : Nat :=
  Nat.ofDigits 10 (digits.reverse.map digitValue)

inductive Denotes : List Char → Int → Prop
  | unsigned {digits : List Char} (numeral : IsNumeral digits) :
      Denotes digits (numeralValue digits)
  | plus {digits : List Char} (numeral : IsNumeral digits) :
      Denotes ('+' :: digits) (numeralValue digits)
  | minus {digits : List Char} (numeral : IsNumeral digits) :
      Denotes ('-' :: digits) (-numeralValue digits)

theorem numberOf_eq_numeralValue (digits : List Char) :
    numberOf digits = numeralValue digits := by
  induction digits using List.reverseRecOn with
  | nil => rfl
  | append_singleton digits digit induction =>
      have read : numberOf (digits ++ [digit]) = 10 * numberOf digits + digitValue digit :=
        List.foldl_concat ..
      rw [read, induction, numeralValue, numeralValue, List.reverse_concat, List.map_cons,
        Nat.ofDigits_cons, Nat.add_comm]

example : numeralValue ['0', '4', '2'] = 42 := by decide

theorem isNumeral_iff {digits : List Char} :
    IsNumeral digits ↔ (digits.isEmpty || !digits.all Char.isDigit) = false := by
  rw [Bool.or_eq_false_iff, List.isEmpty_eq_false_iff, Bool.not_eq_false', List.all_eq_true]
  exact ⟨fun numeral => ⟨numeral.nonempty, numeral.decimal⟩, fun both => ⟨both.1, both.2⟩⟩

theorem not_isNumeral_of_sign {sign : Char} (notDigit : sign.isDigit = false)
    (digits : List Char) : ¬ IsNumeral (sign :: digits) := by
  intro numeral
  have isDigit := numeral.decimal sign List.mem_cons_self
  rw [notDigit] at isDigit
  cases isDigit

theorem readDigits_eq_some_iff (value : Nat → Int) {digits : List Char} {number : Int} :
    (if digits.isEmpty || !digits.all Char.isDigit then none
      else some (value (numberOf digits))) = some number ↔
      IsNumeral digits ∧ value (numeralValue digits) = number := by
  rw [isNumeral_iff, ← numberOf_eq_numeralValue]
  cases digits.isEmpty || !digits.all Char.isDigit <;> simp

theorem denotes_cons_iff {first : Char} {rest : List Char} {number : Int} :
    Denotes (first :: rest) number ↔
      if first = '-' then IsNumeral rest ∧ -(numeralValue rest : Int) = number
      else if first = '+' then IsNumeral rest ∧ (numeralValue rest : Int) = number
      else IsNumeral (first :: rest) ∧ (numeralValue (first :: rest) : Int) = number := by
  constructor
  · generalize equal : first :: rest = text
    intro denotes
    cases denotes with
    | unsigned numeral =>
        subst equal
        rw [if_neg, if_neg]
        · exact ⟨numeral, rfl⟩
        · rintro rfl
          exact not_isNumeral_of_sign (by decide) _ numeral
        · rintro rfl
          exact not_isNumeral_of_sign (by decide) _ numeral
    | plus numeral =>
        cases equal
        exact ⟨numeral, rfl⟩
    | minus numeral =>
        cases equal
        exact ⟨numeral, rfl⟩
  · intro read
    split at read
    · rename_i isMinus
      rcases read with ⟨numeral, rfl⟩
      exact isMinus ▸ .minus numeral
    · split at read
      · rename_i isPlus
        rcases read with ⟨numeral, rfl⟩
        exact isPlus ▸ .plus numeral
      · rcases read with ⟨numeral, rfl⟩
        exact .unsigned numeral

theorem readWhole_eq_some_iff {text : List Char} {number : Int} :
    readWhole text = some number ↔ Denotes text number := by
  cases text with
  | nil =>
      refine iff_of_false nofun ?_
      generalize equal : [] = text
      intro denotes
      cases denotes with
      | unsigned numeral => exact numeral.nonempty equal.symm
      | plus | minus => cases equal
  | cons first rest =>
      rw [denotes_cons_iff]
      split
      · rename_i isMinus
        subst isMinus
        exact readDigits_eq_some_iff (fun value => -(value : Int))
      · rename_i notMinus
        split
        · rename_i isPlus
          subst isPlus
          exact readDigits_eq_some_iff Int.ofNat
        · rename_i notPlus
          rw [readWhole]
          · exact readDigits_eq_some_iff Int.ofNat
          · intro digits equal
            exact notMinus (List.cons.inj equal).1
          · intro digits equal
            exact notPlus (List.cons.inj equal).1

theorem IsNumeral.isWord {digits : List Char} (numeral : IsNumeral digits) :
    IsWord digits where
  nonempty := numeral.nonempty
  visible := fun digit member => visible_of_isDigit (numeral.decimal digit member)

theorem Denotes.isWord {text : List Char} {number : Int} (denotes : Denotes text number) :
    IsWord text := by
  cases denotes with
  | unsigned numeral => exact numeral.isWord
  | plus numeral => exact .cons (by decide) numeral.isWord
  | minus numeral => exact .cons (by decide) numeral.isWord

theorem readCount_eq_some_iff {text : List Char} {count : Int} :
    readCount text = some count ↔
      ∃ written, StandsAlone written text ∧ Denotes written count ∧
        -2147483648 ≤ count ∧ count ≤ 2147483647 := by
  rw [readCount, Option.filter_eq_some_iff, readWhole_eq_some_iff, Bool.and_eq_true,
    decide_eq_true_iff, decide_eq_true_iff]
  constructor
  · rintro ⟨denotes, bounds⟩
    exact ⟨trim text, standsAlone_trim text, denotes, bounds⟩
  · rintro ⟨written, alone, denotes, bounds⟩
    rw [denotes.isWord.trim_eq_iff.mpr alone]
    exact ⟨denotes, bounds⟩

/-! ## Separators -/

/-- What the words behind a separator count to. Only the first of them is read. -/
inductive Counts (context : Context) : List (List Char) → Int → Prop
  | once : Counts context [] 1
  | written {word written : List Char} {later : List (List Char)} {count : Int}
      (alone : StandsAlone written
        (if context.mode.isScripting then expand context.store.get? word else word))
      (denotes : Denotes written count) (least : -2147483648 ≤ count)
      (greatest : count ≤ 2147483647) :
      Counts context (word :: later) count

structure Separates (context : Context) (ending : Ending) (operands : List (List Char))
    (count : Int) : Prop where
  endsLine : ending = .endOfLine ∨ ending = .endOfScript ∨ ending = .before .lineComment
  counts : Counts context operands count

theorem Ending.isLineEnd_iff {ending : Ending} :
    ending.isLineEnd = true ↔
      ending = .endOfLine ∨ ending = .endOfScript ∨ ending = .before .lineComment := by
  cases ending with
  | before kind => cases kind <;> simp [isLineEnd]
  | endOfLine | endOfScript | none => simp [isLineEnd]

theorem counts_iff {progress : Progress} {operands : List (List Char)} {count : Int} :
    Counts progress.context operands count ↔
      progress.repeatCount operands.head? = some count := by
  cases operands with
  | nil =>
      constructor
      · rintro ⟨⟩
        rfl
      · intro counted
        cases counted
        exact .once
  | cons word later =>
      refine Iff.trans ?_ readCount_eq_some_iff.symm
      constructor
      · intro counts
        cases counts with
        | written alone denotes least greatest =>
            exact ⟨_, alone, denotes, least, greatest⟩
      · rintro ⟨written, alone, denotes, least, greatest⟩
        exact .written alone denotes least greatest

section Separator

variable {progress : Progress} {element : Element} {keyword : List Char}
  {operands : List (List Char)} (isText : element.kind = .text)
  (split : words element.text = keyword :: operands)
  (separates : sameKeyword keyword "GO".toList = true)

include isText split separates

theorem Line.read_separator (scripting : Bool) :
    Line.read scripting element =
      if element.ending.isLineEnd then .ok (.separator operands.head?)
      else .error .separator := by
  have isSeparator := (Line.isSeparator_of_words isText split).trans separates
  rw [Line.read_of_isSeparator isSeparator, split]
  cases operands <;> rfl

theorem separates_iff {count : Int} :
    Separates progress.context element.ending operands count ↔
      Line.read progress.context.mode.isScripting element = .ok (.separator operands.head?) ∧
        progress.repeatCount operands.head? = some count := by
  rw [Line.read_separator isText split separates]
  constructor
  · rintro ⟨endsLine, counts⟩
    rw [if_pos (Ending.isLineEnd_iff.mpr endsLine)]
    exact ⟨rfl, counts_iff.mp counts⟩
  · rintro ⟨read, counted⟩
    refine ⟨Ending.isLineEnd_iff.mp ?_, counts_iff.mpr counted⟩
    by_contra goesOn
    rw [if_neg goesOn] at read
    cases read

/-- What a pass does with a separator: it closes the batch that is open, or it rejects the
line and changes nothing. -/
theorem Pass.step_separator (rest : List Element) :
    (∀ count, Separates progress.context element.ending operands count →
      step progress element rest =
        if progress.pending.isEmpty then .ok ⟨none, progress, rest⟩
        else .ok ⟨some (progress.close count), progress.clear, rest⟩) ∧
      ((∀ count, ¬ Separates progress.context element.ending operands count) →
        step progress element rest = .error (⟨.separator, element.position⟩, rest)) := by
  constructor
  · intro count accepted
    rcases (separates_iff isText split separates).mp accepted with ⟨read, counted⟩
    rw [step, read]
    dsimp only
    rw [counted]
  · intro rejected
    have read := Line.read_separator isText split separates progress.context.mode.isScripting
    cases ends : element.ending.isLineEnd with
    | false =>
        rw [ends] at read
        rw [step, read]
        rfl
    | true =>
        rw [ends] at read
        have uncounted : progress.repeatCount operands.head? = none := by
          rw [Option.eq_none_iff_forall_ne_some]
          intro count counted
          exact rejected count ((separates_iff isText split separates).mpr ⟨read, counted⟩)
        rw [step, read]
        simp only [if_true, uncounted]

end Separator

/-- A separator is accepted exactly when it ends its line and nothing stands behind it or a
word that is, expanded and between blanks, a whole number of 32 bits. What it counts is this
number, or one if nothing stands behind it, and the batch that it closes has that count.
Otherwise the separator is malformed, the error tells the place where its element starts,
and the open batch stays as it is. -/
theorem separator_counts_exactly (unterminated : Option Unterminated) (progress : Progress)
    {element : Element} (rest : List Element) {keyword : List Char}
    {operands : List (List Char)} (isText : element.kind = .text)
    (split : words element.text = keyword :: operands)
    (separates : sameKeyword keyword "GO".toList = true) :
    let pass := Pass.mk (element :: rest) unterminated progress
    let behind := Pass.mk rest unterminated progress
    let fault := Fault.mk .separator element.position
    (∀ count, Separates progress.context element.ending operands count ↔
      Line.read progress.context.mode.isScripting element = .ok (.separator operands.head?) ∧
        progress.repeatCount operands.head? = some count) ∧
      (∀ count, Separates progress.context element.ending operands count →
        pass.nextBatch false =
          if progress.pending.isEmpty then behind.nextBatch false
          else (.batch ⟨progress.pending.reverse, progress.start.getD .start, count⟩,
            { behind with progress := progress.clear })) ∧
      ((∀ count, ¬ Separates progress.context element.ending operands count) →
        pass.nextBatch false = (.fault fault, behind) ∧
          fault.toError = .malformed (some element.position.line)
            (some element.position.column)
            "Incorrect syntax was encountered while parsing GO.") := by
  intro pass behind fault
  have asked : pass.nextBatch false = Pass.advance unterminated progress (element :: rest) := rfl
  have steps := @Pass.step_separator progress _ _ _ isText split separates rest
  rw [Pass.advance_cons] at asked
  refine ⟨fun count => separates_iff isText split separates, ?_, ?_⟩
  · intro count accepted
    rw [asked, steps.1 count accepted]
    cases progress.pending.isEmpty <;> rfl
  · intro rejected
    rw [asked, steps.2 rejected]
    exact ⟨rfl, rfl⟩

/-- The least count, put together from two variables, with zeros in front of it and a blank
behind it. -/
theorem separator_counts_exactly_of_least_count :
    let context := Context.ofOptions
      ⟨.sqlcmd, .ofList [("a".toList, "-00021474".toList), ("b".toList, "83648 ".toList)], true⟩
    let content : Element := ⟨.text, "x\n".toList, ⟨2, 1⟩, .endOfLine⟩
    let element : Element := ⟨.text, "go $(a)$(b) 7\n".toList, ⟨3, 1⟩, .endOfLine⟩
    let progress : Progress := ⟨context, [⟨content, content.text⟩], some content.position⟩
    (words element.text = ["go".toList, "$(a)$(b)".toList, "7".toList] ∧
      sameKeyword "go".toList "GO".toList = true) ∧
      (Pass.mk [element] none progress).nextBatch false =
        (.batch ⟨[⟨content, content.text⟩], ⟨2, 1⟩, -2147483648⟩,
          ⟨[], none, .ofContext context⟩) := by
  intro context content element progress
  have split : words element.text = ["go".toList, "$(a)$(b)".toList, "7".toList] := by
    decide +kernel
  have isKeyword : sameKeyword "go".toList "GO".toList = true := by decide
  rcases separator_counts_exactly none progress [] rfl split isKeyword with
    ⟨separates, answers, -⟩
  have accepted := (separates (-2147483648)).mpr ⟨by decide +kernel, by decide +kernel⟩
  refine ⟨⟨split, isKeyword⟩, ?_⟩
  rw [answers _ accepted]
  rfl

end Batchwise
