import Batchwise.Proofs.Pass.Assembly
import Batchwise.Proofs.Pass.Concatenation
import Batchwise.Proofs.Pass.Construct
import Batchwise.Proofs.Pass.LineStart
import Batchwise.Proofs.Pass.SeparatorLine

namespace Batchwise

/-! A block of content that is closed by a line with a separator. Such a piece of a script
makes up exactly one batch, and leaves everything else as it was. -/

/-! ## Blocks -/

/-- The script is made of these elements, all of them content, and ends its last line. -/
structure IsBlock (scripting : Bool) (script : List Char) (elements : List Element) : Prop where
  scanned : (Cursor.ofScript script).elements = ⟨elements, none⟩
  nonempty : elements ≠ []
  ends : EndsInLineFeed elements
  content : ∀ element ∈ elements, Line.content.Renders scripting element

theorem lineFeed_of_ends {script : List Char} {elements : List Element}
    (scanned : (Cursor.ofScript script).elements = ⟨elements, none⟩) (nonempty : elements ≠ [])
    (ends : EndsInLineFeed elements) : script.getLast? = some '\n' := by
  have source : sourceOf elements = script := (Cursor.elements_eq_iff.mp scanned).1.source
  have isLast := List.getLast?_eq_some_getLast nonempty
  have lineFeed := (ends _ isLast).2
  have visible : (elements.getLast nonempty).text ≠ [] := by
    intro empty
    rw [empty] at lineFeed
    cases lineFeed
  rw [← source, ← List.dropLast_append_getLast nonempty, sourceOf, List.flatMap_append,
    List.flatMap_singleton, List.getLast?_append_of_ne_nil _ visible, lineFeed]

def Context.blockBatch (context : Context) (elements : List Element) (count : Int) : Batch :=
  (elements.foldl Progress.append (.ofContext context)).close count

theorem context_foldl_append (elements : List Element) (progress : Progress) :
    (elements.foldl Progress.append progress).context = progress.context := by
  induction elements generalizing progress with
  | nil => rfl
  | cons element rest induction => exact induction (progress.append element)

theorem length_pending_foldl_append (elements : List Element) (progress : Progress) :
    (elements.foldl Progress.append progress).pending.length =
      elements.length + progress.pending.length := by
  induction elements generalizing progress with
  | nil => exact (Nat.zero_add _).symm
  | cons element rest induction =>
      refine (induction (progress.append element)).trans ?_
      rw [Progress.pending_append, List.length_cons, List.length_cons]
      omega

theorem constructs_of_contents {scripting : Bool} {elements : List Element}
    (content : ∀ element ∈ elements, Line.content.Renders scripting element)
    (behind : List Element) :
    constructs scripting (elements ++ behind) =
      elements.map Part.content ++ constructs scripting behind := by
  induction elements with
  | nil => rfl
  | cons element rest induction =>
      rcases List.forall_mem_cons.mp content with ⟨⟨notSeparator, notDirective⟩, others⟩
      rw [List.cons_append, constructs_of_content notSeparator notDirective, induction others]
      rfl

theorem parsedFrom_contents (unterminated : Option Unterminated) (elements : List Element)
    (progress : Progress) (behind : List Part) :
    parsedFrom unterminated progress (elements.map Part.content ++ behind) =
      parsedFrom unterminated (elements.foldl Progress.append progress) behind := by
  induction elements generalizing progress with
  | nil => rfl
  | cons element rest induction => exact induction (progress.append element)

theorem parsedFrom_separator {progress : Progress} {element : Element} {count : Int}
    (endsLine : element.ending.isLineEnd = true)
    (counted : progress.context.separatorCount element = some count)
    (opened : progress.pending.isEmpty = false) :
    parsedFrom none progress [.separator element] =
      ⟨[⟨progress.close count, progress.context.continueOnError⟩], none, progress.context⟩ := by
  have judged : (Part.separator element).malformation? progress.context = none := by
    simp [Part.malformation?, endsLine, counted]
  have closed : progress.closed? (.separator element) = some (progress.close count) := by
    simp [Progress.closed?, judged, opened, counted]
  have past : progress.past (.separator element) = progress.clear := by
    simp [Progress.past, judged, opened]
  rw [parsedFrom, judged, closed, past, parsedFrom, Pass.parse_nil]
  rfl

theorem parse_block {context : Context} {script : List Char} {elements : List Element}
    (isBlock : IsBlock context.mode.isScripting script elements) {count : Option Nat}
    (few : ∀ times ∈ count, times ≤ 2147483647) :
    (Pass.ofScript (script ++ separatorLine count) context).parse =
      ⟨[⟨context.blockBatch elements (count.getD 1 : Nat), context.continueOnError⟩], none,
        context⟩ := by
  have lineFeed := lineFeed_of_ends isBlock.scanned isBlock.nonempty isBlock.ends
  have scanned := elements_ofScript_append (separatorLine count) isBlock.scanned isBlock.ends
    lineFeed
  have chain := Cursor.announces_elements (Cursor.ofScript (script ++ separatorLine count))
  rw [elements_separatorLine] at scanned
  rw [scanned] at chain
  have last : constructs context.mode.isScripting
      [(separator count).down (script.count '\n')] =
        [.separator ((separator count).down (script.count '\n'))] :=
    constructs_of_separator isSeparator_separator
  rw [Pass.ofScript, scanned]
  refine (Pass.parse_constructs _ _ _ chain).trans ?_
  change parsedFrom none (.ofContext context) (constructs context.mode.isScripting
    (elements ++ [(separator count).down (script.count '\n')])) = _
  have same := context_foldl_append elements (.ofContext context)
  have counted : (elements.foldl Progress.append (.ofContext context)).context.separatorCount
      ((separator count).down (script.count '\n')) = some ((count.getD 1 : Nat) : Int) := by
    rw [same]
    exact separatorCount_separator few context
  have opened : (elements.foldl Progress.append (.ofContext context)).pending.isEmpty = false := by
    have length := length_pending_foldl_append elements (.ofContext context)
    have positive := List.length_pos_iff.mpr isBlock.nonempty
    rw [Bool.eq_false_iff, ne_eq, List.isEmpty_iff_length_eq_zero]
    omega
  rw [constructs_of_contents isBlock.content, parsedFrom_contents, last,
    parsedFrom_separator (by rfl) counted opened, same]
  rfl

/-! ## Scripts that close their batches -/

/-- Behind the script nothing is open: it is empty, or it ends with a separator line. -/
def ClosesBatches (script : List Char) : Prop :=
  ∃ elements, (Cursor.ofScript script).elements = ⟨elements, none⟩ ∧
    ∀ last ∈ elements.getLast?, last.isSeparator = true ∧ last.text.getLast? = some '\n'

theorem closesBatches_block {scripting : Bool} {script : List Char} {elements : List Element}
    (isBlock : IsBlock scripting script elements) (count : Option Nat) :
    ClosesBatches (script ++ separatorLine count) := by
  have lineFeed := lineFeed_of_ends isBlock.scanned isBlock.nonempty isBlock.ends
  have scanned := elements_ofScript_append (separatorLine count) isBlock.scanned isBlock.ends
    lineFeed
  rw [elements_separatorLine] at scanned
  refine ⟨_, scanned, ?_⟩
  intro last isLast
  change last ∈ (elements ++ [(separator count).down (script.count '\n')]).getLast? at isLast
  rw [List.getLast?_concat] at isLast
  cases isLast
  refine ⟨isSeparator_separator, ?_⟩
  change (separatorLine count).getLast? = some '\n'
  cases count with
  | none => rfl
  | some count => exact List.getLast?_concat

theorem map_down_zero (elements : List Element) : elements.map (Element.down 0) = elements :=
  List.map_id _

theorem ClosesBatches.elements_append {first : List Char} {elements : List Element}
    (scanned : (Cursor.ofScript first).elements = ⟨elements, none⟩)
    (closes : ∀ last ∈ elements.getLast?,
      last.isSeparator = true ∧ last.text.getLast? = some '\n') (second : List Char) :
    (Cursor.ofScript (first ++ second)).elements =
      ⟨elements ++ (Cursor.ofScript second).elements.elements.map
          (Element.down (first.count '\n')),
        (Cursor.ofScript second).elements.unterminated.map
          (Unterminated.down (first.count '\n'))⟩ := by
  have ends : EndsInLineFeed elements := by
    intro last isLast
    rcases closes last isLast with ⟨separates, lineFeed⟩
    exact ⟨kind_of_isSeparator separates, lineFeed⟩
  cases elements with
  | nil =>
      have empty : first = [] := (Cursor.elements_eq_iff.mp scanned).1.source.symm
      subst empty
      have unmoved : (Cursor.ofScript second).elements.unterminated.map (Unterminated.down 0) =
          (Cursor.ofScript second).elements.unterminated := congrFun Option.map_id _
      rw [List.nil_append, List.count_nil, unmoved, map_down_zero, List.nil_append]
  | cons element rest =>
      have lineFeed := lineFeed_of_ends scanned (List.cons_ne_nil _ _) ends
      exact elements_ofScript_append second scanned ends lineFeed

theorem ClosesBatches.parse_append {first : List Char} (closes : ClosesBatches first)
    (second : List Char) (context : Context) :
    (Pass.ofScript (first ++ second) context).parse =
      (Pass.ofScript first context).parse.andThen fun left =>
        (Pass.ofScript second left).parse.down (first.count '\n') := by
  rcases closes with ⟨elements, scanned, closes⟩
  have separates : ∀ last ∈ elements.getLast?, last.isSeparator = true :=
    fun last isLast => (closes last isLast).1
  rw [Pass.ofScript, Pass.ofScript, elements_append scanned closes second, scanned,
    Pass.parse_append _ _ (.ofContext context) elements rfl (fun _ => rfl) separates]
  congr 1
  funext left
  exact Pass.parse_down _ (Cursor.ofScript second).elements.unterminated (.ofContext left)
    (Cursor.ofScript second).elements.elements rfl

end Batchwise
