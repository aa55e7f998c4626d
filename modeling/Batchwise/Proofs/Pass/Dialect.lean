import Batchwise.Proofs.Pass.Agreement
import Batchwise.Proofs.Variable.Expansion
import Batchwise.Proofs.Variable.Precedence

namespace Batchwise

/-! What the dialects have in common. They differ in directives and in references to
variables, and nothing else: plain statements mean the same in each of them. -/

/-- The text that expansion is given of an element: nothing of a comment, and only the
repeat count of a separator. -/
def Element.expandable (element : Element) : List Char :=
  if element.kind.isComment then []
  else if element.isSeparator then ((words element.text)[1]?).getD []
  else element.text

def Bindings.LeavesAlone (bindings : Bindings) (text : List Char) : Prop :=
  ∀ name ∈ lookups text, ∀ entry ∈ bindings.entries, lowercase entry.1 ≠ lowercase name

instance (bindings : Bindings) (text : List Char) : Decidable (bindings.LeavesAlone text) :=
  inferInstanceAs (Decidable (∀ name ∈ lookups text, ∀ entry ∈ bindings.entries,
    lowercase entry.1 ≠ lowercase name))

def Element.plainPart (element : Element) : Part :=
  if element.isSeparator then .separator element else .content element

/-! ## Scripts without directives -/

theorem constructs_of_no_directive {elements : List Element}
    (noDirective : ∀ element ∈ elements, element.isDirective = false) (scripting : Bool) :
    constructs scripting elements = elements.map Element.plainPart := by
  induction elements with
  | nil => rfl
  | cons element rest induction =>
      rcases List.forall_mem_cons.mp noDirective with ⟨notDirective, noDirectiveBehind⟩
      rw [List.map_cons, ← induction noDirectiveBehind, Element.plainPart]
      split
      · exact constructs_of_separator ‹_›
      · refine constructs_of_content (Bool.eq_false_iff.mpr ‹_›) ?_
        rw [notDirective, Bool.and_false]

theorem past_plainPart (context : Context) (element : Element) :
    context.past element.plainPart = context := by
  rw [Element.plainPart]
  split <;> rfl

theorem policy?_plainPart (element : Element) : element.plainPart.policy? = none := by
  rw [Element.plainPart]
  split <;> rfl

theorem pastAll_of_plain (context : Context) {front : List Part} {elements : List Element}
    (within : front <+: elements.map Element.plainPart) : context.pastAll front = context := by
  rcases List.prefix_map_iff.mp within with ⟨plain, -, rfl⟩
  clear within
  induction plain with
  | nil => rfl
  | cons element rest induction =>
      rw [List.map_cons, Context.pastAll, List.foldl_cons, past_plainPart]
      exact induction

theorem policy_of_parsedFrom (unterminated : Option Unterminated) {parts : List Part}
    (keeps : ∀ part ∈ parts, part.policy? = none) :
    ∀ progress, ∀ delivery ∈ (parsedFrom unterminated progress parts).deliveries,
      delivery.continueOnError = progress.context.continueOnError := by
  induction parts with
  | nil =>
      intro progress delivery member
      rw [parsedFrom, Pass.parse_nil] at member
      cases unterminated with
      | some region => cases member
      | none =>
          dsimp only at member
          split at member
          · cases member
          · cases List.mem_singleton.mp member
            rfl
  | cons part rest induction =>
      intro progress delivery member
      rcases List.forall_mem_cons.mp keeps with ⟨kept, keepsBehind⟩
      have policy : (progress.past part).context.continueOnError =
          progress.context.continueOnError := by
        rw [Progress.context_past, continueOnError_past, kept, Option.getD_none]
      rw [parsedFrom] at member
      cases judged : part.malformation? progress.context with
      | some malformation =>
          rw [judged] at member
          cases member
      | none =>
          rw [judged, Parsed.deliveries_deliver, List.mem_append] at member
          rcases member with closed | behind
          · rcases Option.map_eq_some_iff.mp (Option.mem_toList.mp closed) with ⟨batch, -, rfl⟩
            exact policy
          · exact (induction keepsBehind _ delivery behind).trans policy

/-! ## References that mean nothing -/

theorem expand_ofOptions {options : Options} {text : List Char}
    (alone : options.bindings.LeavesAlone text) :
    (Context.ofOptions options).expand text = text := by
  rw [Context.expand]
  split
  · rename_i scripting
    refine expand_of_undefined ?_
    intro name member
    rw [Context.get?_ofOptions scripting, lastValue?, Option.map_eq_none_iff,
      lastNamed?_eq_none_iff]
    intro entry defined
    exact decide_eq_false (alone name member entry defined)
  · rfl

theorem readsAlike_plainPart {first second : Options} {element : Element}
    (aloneInFirst : first.bindings.LeavesAlone element.expandable)
    (aloneInSecond : second.bindings.LeavesAlone element.expandable) :
    element.plainPart.ReadsAlike (.ofOptions first) (.ofOptions second) := by
  have expanded := expand_ofOptions aloneInFirst
  have expandedToo := expand_ofOptions aloneInSecond
  rw [Element.plainPart]
  split
  · rename_i separates
    have count : element.expandable = ((words element.text)[1]?).getD [] := by
      rw [Element.expandable, kind_of_isSeparator separates, separates]
      rfl
    rw [count] at expanded expandedToo
    change Context.separatorCount _ _ = Context.separatorCount _ _
    rw [Context.separatorCount, Context.separatorCount]
    cases written : (words element.text)[1]? with
    | none => rfl
    | some written =>
        rw [written] at expanded expandedToo
        exact congrArg readCount (expanded.trans expandedToo.symm)
  · rename_i notSeparator
    change Element.textIn _ _ = Element.textIn _ _
    rw [Element.textIn_eq, Element.textIn_eq]
    split
    · rfl
    · rename_i notComment
      have whole : element.expandable = element.text := by
        rw [Element.expandable, if_neg notComment, if_neg notSeparator]
      rw [whole] at expanded expandedToo
      exact expanded.trans expandedToo.symm

/-- A script without directives that refers to no variable of the caller is read alike in
all dialects: the same batches, with the same places, texts and counts, in front of the
same fault, if there is one, and all under the policy that was in force at the start. -/
theorem dialects_agree_on_plain_scripts (script : List Char) (bindings : Bindings)
    (continueOnError : Bool)
    (noDirective : ∀ element ∈ (Cursor.ofScript script).elements.elements,
      element.isDirective = false)
    (noReference : ∀ element ∈ (Cursor.ofScript script).elements.elements,
      bindings.LeavesAlone element.expandable) (first second : Mode) :
    let one := parseScript script ⟨first, bindings, continueOnError⟩
    let other := parseScript script ⟨second, bindings, continueOnError⟩
    one.deliveries = other.deliveries ∧ one.fault = other.fault ∧
      one.context = .ofOptions ⟨first, bindings, continueOnError⟩ ∧
      other.context = .ofOptions ⟨second, bindings, continueOnError⟩ ∧
      ∀ delivery ∈ one.deliveries, delivery.continueOnError = continueOnError := by
  have plain (mode : Mode) : parseScript script ⟨mode, bindings, continueOnError⟩ =
      parsedFrom (Cursor.ofScript script).elements.unterminated
        (.ofContext (.ofOptions ⟨mode, bindings, continueOnError⟩))
        ((Cursor.ofScript script).elements.elements.map Element.plainPart) := by
    rw [← constructs_of_no_directive noDirective mode.isScripting]
    exact Pass.parse_constructs _ _ _ (Cursor.announces_elements _)
  have alike : ReadAlike (.ofOptions ⟨first, bindings, continueOnError⟩)
      (.ofOptions ⟨second, bindings, continueOnError⟩)
      ((Cursor.ofScript script).elements.elements.map Element.plainPart) := by
    intro front part back split
    have within : front <+: (Cursor.ofScript script).elements.elements.map Element.plainPart :=
      ⟨part :: back, split.symm⟩
    have member : part ∈ (Cursor.ofScript script).elements.elements.map Element.plainPart := by
      rw [split]
      exact List.mem_append_right _ List.mem_cons_self
    rcases List.mem_map.mp member with ⟨element, scanned, rfl⟩
    rw [pastAll_of_plain _ within, pastAll_of_plain _ within]
    exact readsAlike_plainPart (noReference element scanned) (noReference element scanned)
  intro one other
  rcases parsedFrom_concurs (Cursor.ofScript script).elements.unterminated _
    (.ofContext (.ofOptions ⟨first, bindings, continueOnError⟩))
    (.ofContext (.ofOptions ⟨second, bindings, continueOnError⟩)) ⟨rfl, rfl, rfl⟩ alike with
    ⟨deliveries, fault, front, within, context, otherContext⟩
  rw [← plain first, ← plain second] at deliveries fault
  rw [← plain first] at context
  rw [← plain second] at otherContext
  refine ⟨deliveries, fault, ?_, ?_, ?_⟩
  · exact context.trans (pastAll_of_plain _ within)
  · exact otherContext.trans (pastAll_of_plain _ within)
  · have keeps : ∀ part ∈ (Cursor.ofScript script).elements.elements.map Element.plainPart,
        part.policy? = none := by
      intro part isPart
      rcases List.mem_map.mp isPart with ⟨element, -, rfl⟩
      exact policy?_plainPart element
    have kept := policy_of_parsedFrom (Cursor.ofScript script).elements.unterminated keeps
      (.ofContext (.ofOptions ⟨first, bindings, continueOnError⟩))
    rwa [← plain first] at kept

/-- References may be open, nested or unknown, and one to a variable of the caller may
stand in a comment. The count of the last separator is none. -/
theorem dialects_agree_on_plain_scripts_with_references :
    let script := "S $(b) $($(a)) $(a\nGO 2\n-- $(A)\n'$()'\nGO $(b)\n".toList
    let bindings := Bindings.ofList [("A".toList, "1".toList)]
    (∀ element ∈ (Cursor.ofScript script).elements.elements, element.isDirective = false) ∧
      (∀ element ∈ (Cursor.ofScript script).elements.elements,
        bindings.LeavesAlone element.expandable) ∧
      (parseScript script ⟨.normal, bindings, true⟩).deliveries =
        (parseScript script ⟨.sqlcmdEx, bindings, true⟩).deliveries ∧
      (parseScript script ⟨.normal, bindings, true⟩).fault =
        (parseScript script ⟨.sqlcmdEx, bindings, true⟩).fault := by
  intro script bindings
  have noDirective : ∀ element ∈ (Cursor.ofScript script).elements.elements,
      element.isDirective = false := by decide +kernel
  have noReference : ∀ element ∈ (Cursor.ofScript script).elements.elements,
      bindings.LeavesAlone element.expandable := by decide +kernel
  rcases dialects_agree_on_plain_scripts script bindings true noDirective noReference .normal
    .sqlcmdEx with ⟨deliveries, fault, -⟩
  exact ⟨noDirective, noReference, deliveries, fault⟩

end Batchwise
