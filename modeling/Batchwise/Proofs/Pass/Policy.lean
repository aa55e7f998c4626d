import Batchwise.Proofs.Pass.Construct

namespace Batchwise

/-! The error policy of a batch. It is settled where the batch ends: by the directives
in front of the separator that closes it, whether they stand inside of the batch or in
front of it, and never by one behind that separator. -/

def Part.policy? : Part → Option Bool
  | directive element _ => element.policy?
  | separator _ | content _ => none

def policyBehind (initial : Bool) (front : List Part) : Bool :=
  (front.filterMap Part.policy?).getLastD initial

theorem policyBehind_concat (initial : Bool) (front : List Part) (part : Part) :
    policyBehind initial (front ++ [part]) =
      part.policy?.getD (policyBehind initial front) := by
  rw [policyBehind, List.filterMap_append]
  cases sets : part.policy? with
  | none => simp [sets, policyBehind]
  | some policy => simp [sets]

theorem continueOnError_past (context : Context) (part : Part) :
    (context.past part).continueOnError = part.policy?.getD context.continueOnError := by
  cases part with
  | separator | content => rfl
  | directive element literal =>
      rw [Context.past, Part.policy?]
      cases sets : element.policy? with
      | some continueOnError =>
          rcases Element.policy?_eq_some_iff.mp sets with
            ⟨command, event, policy, split, isOn, -, -, keyword⟩
          have directs : element.directs = true := by simp [Element.directs, sets]
          have other : sameKeyword command ":SETVAR".toList = false :=
            not_sameKeyword isOn (by decide)
          rw [if_pos directs]
          simp only [Context.direct, split, other]
          cases continueOnError with
          | true => exact keyword
          | false => exact not_sameKeyword keyword (by decide)
      | none =>
          split
          · rename_i directs
            rcases Element.directs_iff.mp directs with assigns | assigns | ⟨policy, setsToo⟩
            · rcases Element.assignsLiteral_iff.mp assigns with ⟨command, name, split, -⟩
              simp only [Context.direct, split]
              cases literal <;> rfl
            · rcases Element.assignsWord_iff.mp assigns with
                ⟨command, name, value, split, isSetvar, -⟩
              simp only [Context.direct, split, if_pos isSetvar]
              rfl
            · cases sets.symm.trans setsToo
          · rfl

/-- A batch that is not empty, and all the constructs in front of the place where it
ends. -/
structure Closing where
  contents : List Element
  front : List Part

/-- The batches that constructs make up, when `contents` has been met since the last
separator in `front`. -/
def closings (front : List Part) (contents : List Element) : List Part → List Closing
  | [] => if contents.isEmpty then [] else [⟨contents, front⟩]
  | .separator element :: rest =>
    (if contents.isEmpty then [] else [⟨contents, front⟩]) ++
      closings (front ++ [.separator element]) [] rest
  | .directive element literal :: rest =>
    closings (front ++ [.directive element literal]) contents rest
  | .content element :: rest =>
    closings (front ++ [.content element]) (contents ++ [element]) rest

structure Closing.Delivers (initial : Bool) (closing : Closing) (delivery : Delivery) :
    Prop where
  contents : delivery.batch.pieces.map (·.element) = closing.contents
  policy : delivery.continueOnError = policyBehind initial closing.front

def Progress.contents (progress : Progress) : List Element :=
  progress.pending.reverse.map (·.element)

theorem isEmpty_contents (progress : Progress) :
    progress.contents.isEmpty = progress.pending.isEmpty := by
  rw [Progress.contents, List.isEmpty_map, List.isEmpty_reverse]

theorem contents_append (progress : Progress) (element : Element) :
    (progress.append element).contents = progress.contents ++ [element] := by
  simp [Progress.contents, Progress.append]

theorem delivers_of_parsedFrom (initial : Bool) (unterminated : Option Unterminated)
    (parts : List Part) {progress : Progress} {front : List Part}
    (policy : progress.context.continueOnError = policyBehind initial front) {index : Nat}
    {delivery : Delivery}
    (delivered : (parsedFrom unterminated progress parts).deliveries[index]? = some delivery) :
    ∃ closing, (closings front progress.contents parts)[index]? = some closing ∧
      closing.Delivers initial delivery := by
  induction parts generalizing progress front index with
  | nil =>
      rw [parsedFrom, Pass.parse_nil] at delivered
      rw [closings, isEmpty_contents]
      cases unterminated with
      | some region => simp at delivered
      | none =>
          cases nothing : progress.pending.isEmpty with
          | true => simp [nothing] at delivered
          | false =>
              simp only [nothing, Bool.false_eq_true, if_false] at delivered ⊢
              cases index with
              | zero =>
                  cases delivered
                  exact ⟨_, rfl, rfl, policy⟩
              | succ index => simp at delivered
  | cons part rest induction =>
      have policyNext : (progress.past part).context.continueOnError =
          policyBehind initial (front ++ [part]) := by
        rw [Progress.context_past, continueOnError_past, policyBehind_concat, policy]
      rw [parsedFrom] at delivered
      cases judged : part.malformation? progress.context with
      | some malformation =>
          rw [judged] at delivered
          cases delivered
      | none =>
          rw [judged, Parsed.deliveries_deliver] at delivered
          have behind := @induction (progress.past part) (front ++ [part]) policyNext
          cases part with
          | separator element =>
              have samePolicy : (progress.past (.separator element)).context.continueOnError =
                  policyBehind initial front := by
                rw [Progress.context_past]
                exact policy
              rw [closings, isEmpty_contents]
              simp only [Progress.closed?, Progress.past, judged] at delivered behind samePolicy
              cases nothing : progress.pending.isEmpty with
              | true =>
                  have noContents : progress.contents = [] := by
                    rw [← List.isEmpty_iff, isEmpty_contents, nothing]
                  simp only [nothing, if_true, noContents] at delivered behind
                  exact behind delivered
              | false =>
                  rcases Part.count_of_accepted judged with ⟨count, counted⟩
                  simp only [nothing, Bool.false_eq_true, if_false, counted]
                    at delivered behind samePolicy ⊢
                  cases index with
                  | zero =>
                      cases delivered
                      exact ⟨_, rfl, rfl, samePolicy⟩
                  | succ index => exact behind delivered
          | directive element literal =>
              simp only [Progress.closed?, Progress.past, judged] at delivered behind
              exact behind delivered
          | content element =>
              simp only [Progress.closed?, Progress.past, judged, contents_append]
                at delivered behind
              exact behind delivered

theorem delivers_of_parseScript {script : List Char} {options : Options} {index : Nat}
    {delivery : Delivery}
    (delivered : (parseScript script options).deliveries[index]? = some delivery) :
    ∃ closing, (closings [] [] (constructs options.mode.isScripting
        (Cursor.ofScript script).elements.elements))[index]? = some closing ∧
      closing.Delivers options.continueOnError delivery := by
  have constructed : parseScript script options = parsedFrom _ _ _ :=
    Pass.parse_constructs _ _ _ (Cursor.announces_elements _)
  rw [constructed] at delivered
  exact delivers_of_parsedFrom _ _ _ rfl delivered

/-- The second directive stands behind the separator of the first batch. -/
example : (parseScript "A\n:ON ERROR EXIT\nGO\n:ON ERROR IGNORE\nB".toList {}).deliveries.map
    Delivery.continueOnError = [false, true] := by decide +kernel

end Batchwise
