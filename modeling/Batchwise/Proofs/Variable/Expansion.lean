import Batchwise.Variable.Reference
import Mathlib.Data.List.Infix

namespace Batchwise

/-! What expansion leaves alone. The segments of a text make it up, so a text changes
only where a reference has a value, and a text that holds no `$(` never changes. -/

def referenceOpening : List Char := ['$', '(']

theorem source_splitAtParenthesis {text : List Char} {split : List Char × List Char}
    (found : splitAtParenthesis text = some split) : text = split.1 ++ ')' :: split.2 := by
  induction text generalizing split with
  | nil => cases found
  | cons character rest induction =>
      unfold splitAtParenthesis at found
      split at found
      · cases found
      · rename_i equal
        cases equal
        cases found
        rfl
      · rename_i equal
        cases equal
        rcases Option.map_eq_some_iff.mp found with ⟨inner, split, rfl⟩
        have behind := induction split
        rw [behind]
        rfl

theorem source_reference? {text name rest : List Char}
    (found : reference? text = some (name, rest)) :
    text = (Segment.reference name).source ++ rest := by
  unfold reference? at found
  split at found
  · rename_i behind
    split at found
    · cases found
    · have split := source_splitAtParenthesis found
      rw [split]
      simp [Segment.source]
  · cases found

theorem source_segments (text : List Char) :
    (Segment.ofText text).flatMap Segment.source = text := by
  fun_induction Segment.ofText text with
  | case1 text name rest found induction =>
      rw [List.flatMap_cons, induction]
      exact (source_reference? found).symm
  | case2 => rfl
  | case3 character rest _ induction =>
      rw [List.flatMap_cons, induction]
      rfl

theorem expand_of_undefined {lookup : List Char → Option (List Char)} {text : List Char}
    (undefined : ∀ name ∈ lookups text, lookup name = none) : expand lookup text = text := by
  have kept : (Segment.ofText text).flatMap (Segment.expand lookup) =
      (Segment.ofText text).flatMap Segment.source := by
    apply List.flatMap_congr
    intro segment member
    cases segment with
    | plain character => rfl
    | reference name =>
        have nothing := undefined name (List.mem_filterMap.mpr ⟨_, member, rfl⟩)
        rw [Segment.expand, nothing]
        rfl
  exact kept.trans (source_segments text)

theorem infix_of_mem_lookups {text name : List Char} (member : name ∈ lookups text) :
    (Segment.reference name).source <:+: text := by
  rcases List.mem_filterMap.mp member with ⟨segment, among, named⟩
  cases segment with
  | plain character => cases named
  | reference other =>
      cases named
      have isPiece : (Segment.reference name).source ∈
          (Segment.ofText text).map Segment.source := List.mem_map_of_mem among
      have inside := List.infix_of_mem_flatten isPiece
      rwa [← List.flatMap_def, source_segments] at inside

theorem lookups_of_no_opening {text : List Char} (noOpening : ¬ referenceOpening <:+: text) :
    lookups text = [] := by
  apply List.eq_nil_iff_forall_not_mem.mpr
  intro name member
  apply noOpening
  have opens : referenceOpening <+: (Segment.reference name).source :=
    List.prefix_append referenceOpening (name ++ [')'])
  exact opens.isInfix.trans (infix_of_mem_lookups member)

theorem expand_of_no_opening (lookup : List Char → Option (List Char)) {text : List Char}
    (noOpening : ¬ referenceOpening <:+: text) : expand lookup text = text := by
  apply expand_of_undefined
  rw [lookups_of_no_opening noOpening]
  exact fun name member => absurd member List.not_mem_nil

end Batchwise
