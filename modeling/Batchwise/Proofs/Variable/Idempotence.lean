import Batchwise.Proofs.Variable.Decomposition

namespace Batchwise

/-! Expanding a text that has been expanded before. As long as the values are harmless, no
new reference comes about where a value meets the text around it. The text then falls into
the same segments as before, with the characters of the value in the place of each reference
that has one. So a second expansion meets only those references that the first one has left
as they were. -/

/-- A value that makes up no reference with any text around it. -/
structure IsHarmless (value : List Char) : Prop where
  nonempty : value ≠ []
  noDollar : '$' ∉ value
  noParenthesis : value.head? ≠ some '('

def Segment.settle (lookup : List Char → Option (List Char)) : Segment → List Segment
  | plain character => [plain character]
  | reference name =>
    match lookup name with
    | some value => value.map plain
    | none => [reference name]

/-! ## No reference starts at a seam -/

theorem StartsReference.opens {character : Char} {rest : List Char}
    (starts : StartsReference (character :: rest)) :
    character = '$' ∧ ∃ name behind, IsName name ∧ rest = '(' :: (name ++ ')' :: behind) := by
  rcases starts with ⟨name, behind, isName, split⟩
  rcases List.cons.inj split with ⟨rfl, opened⟩
  refine ⟨rfl, name, behind, isName, opened.trans ?_⟩
  simp

theorem ofText_append_of_no_dollar {value : List Char} (noDollar : '$' ∉ value)
    (rest : List Char) :
    Segment.ofText (value ++ rest) = value.map .plain ++ Segment.ofText rest := by
  induction value with
  | nil => rfl
  | cons character behind induction =>
      rcases not_or.mp (mt List.mem_cons.mpr noDollar) with ⟨different, noDollarBehind⟩
      have none : reference? (character :: (behind ++ rest)) = none := by
        rw [reference?_eq_none_iff]
        intro starts
        exact different starts.opens.1.symm
      rw [List.cons_append, ofText_cons none, induction noDollarBehind]
      rfl

theorem closes_at_once_or_never {rest : List Char}
    (none : ¬ StartsReference ('$' :: '(' :: rest)) :
    (∃ behind, rest = ')' :: behind) ∨ ')' ∉ rest := by
  by_cases closes : ')' ∈ rest
  · rcases List.eq_append_cons_of_mem closes with ⟨name, behind, rfl, noParenthesis⟩
    cases name with
    | nil => exact .inl ⟨behind, rfl⟩
    | cons first name =>
        have isName : IsName (first :: name) := ⟨List.cons_ne_nil _ _, noParenthesis⟩
        have starts := startsReference_referenceTo isName behind
        rw [referenceTo, List.append_assoc, List.singleton_append] at starts
        exact absurd starts none
  · exact .inr closes

section Settle

variable {lookup : List Char → Option (List Char)}
  (harmless : ∀ name value, lookup name = some value → IsHarmless value)

include harmless

theorem head?_replacement (name rest : List Char) :
    (replacement lookup name ++ rest).head? ≠ some '(' := by
  rw [replacement]
  cases found : lookup name with
  | none => simp [referenceTo]
  | some value =>
      have isHarmless := harmless name value found
      cases value with
      | nil => exact absurd rfl isHarmless.nonempty
      | cons character behind => exact isHarmless.noParenthesis

theorem not_startsReference_expand {character : Char} {rest : List Char}
    (none : ¬ StartsReference (character :: rest)) :
    ¬ StartsReference (character :: expand lookup rest) := by
  intro starts
  rcases starts.opens with ⟨rfl, name, behind, isName, opened⟩
  cases found : reference? rest with
  | some split =>
      rcases reference?_eq_some_iff.mp found with ⟨isReference, source⟩
      rw [source, expand_referenceTo lookup isReference] at opened
      apply head?_replacement harmless split.1 (expand lookup split.2)
      rw [opened]
      rfl
  | none =>
      cases rest with
      | nil =>
          rw [expand_nil] at opened
          cases opened
      | cons first rest =>
          rw [expand_cons lookup found] at opened
          rcases List.cons.inj opened with ⟨rfl, inside⟩
          rcases closes_at_once_or_never none with ⟨after, rfl⟩ | unclosed
          · -- The parentheses are still empty.
            rw [expand_cons lookup rfl] at inside
            cases name with
            | nil => exact isName.nonempty rfl
            | cons character name =>
                rw [← (List.cons.inj inside).1] at isName
                exact isName.noParenthesis List.mem_cons_self
          · -- There is no reference left, so nothing has been replaced.
            have same := expand_append_of_unclosed lookup [] unclosed
            rw [List.nil_append, expand_nil, List.nil_append] at same
            rw [same] at inside
            apply unclosed
            rw [inside]
            exact List.mem_append_right name List.mem_cons_self

/-- Expansion puts the characters of the values in the places of the references, and leaves
all other segments of the text as they are. -/
theorem ofText_expand (text : List Char) :
    Segment.ofText (expand lookup text) =
      (Segment.ofText text).flatMap (Segment.settle lookup) := by
  induction text using Segment.ofText.induct with
  | case1 text name rest found induction =>
      rcases reference?_eq_some_iff.mp found with ⟨isName, rfl⟩
      rw [expand_referenceTo lookup isName, ofText_referenceTo isName, List.flatMap_cons,
        ← induction, replacement, Segment.settle]
      cases defined : lookup name with
      | none => exact ofText_referenceTo isName _
      | some value => exact ofText_append_of_no_dollar (harmless name value defined).noDollar _
  | case2 =>
      rw [expand_nil, Segment.ofText]
      rfl
  | case3 character rest nothing induction =>
      have still : reference? (character :: expand lookup rest) = none := by
        rw [reference?_eq_none_iff] at nothing ⊢
        exact not_startsReference_expand harmless nothing
      rw [expand_cons lookup nothing, ofText_cons still, ofText_cons nothing, induction]
      rfl

theorem lookups_expand (text : List Char) :
    lookups (expand lookup text) = (lookups text).filter fun name => lookup name = none := by
  rw [lookups, lookups, ofText_expand harmless]
  induction Segment.ofText text with
  | nil => rfl
  | cons segment rest induction =>
      rw [List.flatMap_cons, List.filterMap_append, induction]
      cases segment with
      | plain character => rfl
      | reference name =>
          cases defined : lookup name with
          | none => simp [Segment.settle, Segment.name?, defined]
          | some value => simp [Segment.settle, Segment.name?, defined, List.filterMap_map]

/-- Expanding twice is expanding once, with the second look-up for the names that the first
one does not know. -/
theorem expand_expand (other : List Char → Option (List Char)) (text : List Char) :
    expand other (expand lookup text) =
      expand (fun name => (lookup name).or (other name)) text := by
  rw [expand.eq_def other, ofText_expand harmless, expand.eq_def, List.flatMap_assoc]
  apply List.flatMap_congr
  intro segment _
  cases segment with
  | plain character => rfl
  | reference name =>
      cases defined : lookup name with
      | none => simp [Segment.settle, Segment.expand, defined]
      | some value => simp [Segment.settle, Segment.expand, defined, List.flatMap_map]

end Settle

/-- If all values are harmless, a second expansion changes nothing: the references of the
expanded text are those that have no value, each of them where it was, and between them
stands nothing but the plain text and the values, in which no reference starts. -/
theorem expansion_is_idempotent (lookup : List Char → Option (List Char))
    (harmless : ∀ name value, lookup name = some value → IsHarmless value) (text : List Char) :
    expand lookup (expand lookup text) = expand lookup text ∧
      lookups (expand lookup text) = ((lookups text).filter fun name => lookup name = none) ∧
      Segment.ofText (expand lookup text) =
        (Segment.ofText text).flatMap (Segment.settle lookup) := by
  refine ⟨?_, lookups_expand harmless text, ofText_expand harmless text⟩
  rw [expand_expand harmless]
  congr 1
  funext name
  exact Option.or_self

/-- The value could close a reference, and stands in front of a parenthesis and behind a
dollar sign. The references that are kept hold an opening, nothing, or no end. -/
theorem expansion_is_idempotent_of_closing_value :
    let lookup : List Char → Option (List Char) := fun name =>
      if name = ['a'] then some [')', 'x'] else none
    let text := "$$(a)(b) $(u$(a)$() $($(a) $(a".toList
    (∀ name value, lookup name = some value → IsHarmless value) ∧
      expand lookup text = "$)x(b) $(u$(a)$() $($(a) $(a".toList ∧
      expand lookup (expand lookup text) = expand lookup text ∧
      lookups (expand lookup text) = ["u$(a".toList, "$(a".toList] := by
  intro lookup text
  have harmless : ∀ name value, lookup name = some value → IsHarmless value := by
    intro name value found
    dsimp only [lookup] at found
    split at found
    · cases found
      exact ⟨by decide, by decide, by decide⟩
    · cases found
  rcases expansion_is_idempotent lookup harmless text with ⟨same, kept, -⟩
  refine ⟨harmless, by decide +kernel, same, ?_⟩
  rw [kept]
  decide +kernel

/-- A value that is empty, holds a dollar sign or starts with a parenthesis can make up a
reference. -/
example :
    let value : List Char → Option (List Char) := fun name =>
      if name = ['a'] then some [] else if name = ['b'] then some ['$'] else
      if name = ['c'] then some "(d)".toList else if name = ['d'] then some ['x'] else none
    expand value "$$(a)(d)".toList = "$(d)".toList ∧
      expand value "$(b)(d)".toList = "$(d)".toList ∧
      expand value "$$(c)".toList = "$(d)".toList := by decide +kernel

end Batchwise
