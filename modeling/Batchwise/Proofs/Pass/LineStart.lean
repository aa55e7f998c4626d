import Batchwise.Proofs.Element.Tokenization
import Batchwise.Proofs.Pass.Part

namespace Batchwise

/-! Where separators and directives stand on their lines. A pass judges a run of
plain text by its own words and by what ends it, and never by what stands in front
of it on the same line. So a run that goes on behind a literal is taken for a
separator or a directive whenever its first word looks like one. -/

/-! ## The line in front of an element -/

/-- The element has a character on the line that goes on behind `following`. A line
begins at the start of the script and behind each line break. -/
def SharesLine (element : Element) (following : List Element) : Prop :=
  ∃ front back, element.text = front ++ back ∧ back ≠ [] ∧
    Unbroken (back ++ sourceOf following)

def Element.IsBlankText (element : Element) : Prop :=
  element.kind = .text ∧ ∀ character ∈ element.text, isBlank character = true

/-- On the line that goes on behind these elements, there are only blanks and
comments so far. -/
def LineAnchored (preceding : List Element) : Prop :=
  ∀ before element following, preceding = before ++ element :: following →
    SharesLine element following → element.IsBlankText ∨ element.kind.isComment = true

/-- On the line that goes on behind these elements, there is a literal or plain text
that is not blank. -/
def ContinuesLine (preceding : List Element) : Prop :=
  ∃ before element following, preceding = before ++ element :: following ∧
    SharesLine element following ∧
    (element.kind.isLiteral = true ∨
      element.kind = .text ∧ ∃ character ∈ element.text, isBlank character = false)

theorem not_lineAnchored_iff {preceding : List Element} :
    ¬ LineAnchored preceding ↔ ContinuesLine preceding := by
  constructor
  · intro notAnchored
    by_contra nothing
    apply notAnchored
    intro before element following split shares
    by_contra neither
    rcases not_or.mp neither with ⟨notBlank, notComment⟩
    refine nothing ⟨before, element, following, split, shares, ?_⟩
    cases kind : element.kind with
    | text =>
      refine .inr ⟨rfl, ?_⟩
      by_contra allBlank
      refine notBlank ⟨kind, ?_⟩
      intro character member
      by_contra visible
      exact allBlank ⟨character, member, Bool.eq_false_iff.mpr visible⟩
    | lineComment | blockComment =>
      rw [kind] at notComment
      exact absurd rfl notComment
    | literal quote => exact .inl rfl
  · rintro ⟨before, element, following, split, shares, continues⟩ anchored
    rcases anchored before element following split shares with ⟨isText, blank⟩ | isComment
    · rcases continues with isLiteral | ⟨-, character, member, visible⟩
      · rw [isText] at isLiteral
        cases isLiteral
      · rw [blank character member] at visible
        cases visible
    · rcases continues with isLiteral | ⟨isText, -⟩
      · cases kind : element.kind with
        | literal quote =>
          rw [kind] at isComment
          cases isComment
        | text | lineComment | blockComment =>
          rw [kind] at isLiteral
          cases isLiteral
      · rw [isText] at isComment
        cases isComment

theorem continuesLine_of_literal (before : List Element) {literal : Element}
    (isLiteral : literal.kind.isLiteral = true) (nonempty : literal.text ≠ [])
    (unbroken : Unbroken literal.text) : ContinuesLine (before ++ [literal]) := by
  refine ⟨before, literal, [], rfl, ⟨[], literal.text, rfl, nonempty, ?_⟩, .inl isLiteral⟩
  rwa [sourceOf_nil, List.append_nil]

namespace Line

theorem ending_of_readDirective {command name : List Char} {operands : List (List Char)}
    {ending : Ending}
    (read : readDirective command operands ending = .ok (.assignLiteral name)) :
    ending = .before (.literal .double) := by
  simp only [readDirective] at read
  repeat' split at read
  all_goals cases read
  rfl

theorem ending_of_read {scripting : Bool} {element : Element} {name : List Char}
    (read : Line.read scripting element = .ok (.assignLiteral name)) :
    element.ending = .before (.literal .double) := by
  simp only [Line.read, readWords] at read
  repeat' split at read
  all_goals first
    | exact ending_of_readDirective read
    | cases read

end Line

namespace Pass

/-! ## What a step takes -/

/-- The element goes into the open batch; it neither closes the batch nor is dropped,
and it is no fault. -/
def TakesAsContent (progress : Progress) (element : Element) (rest : List Element) : Prop :=
  step progress element rest = .ok ⟨none, progress.append element, rest⟩

theorem pending_step {progress : Progress} {element : Element} {rest : List Element}
    {moved : Moved} (taken : step progress element rest = .ok moved)
    (other : Line.read progress.context.mode.isScripting element ≠ .ok .content) :
    moved.progress.pending = progress.pending ∨ moved.progress.pending = [] := by
  rw [step] at taken
  repeat' split at taken
  all_goals cases taken
  · exact .inl rfl
  · exact .inr rfl
  · exact .inl rfl
  · exact .inl rfl
  · exact .inl rfl
  · exact .inl rfl
  · rename_i isContent
    exact absurd isContent other

theorem takesAsContent_iff {progress : Progress} {element : Element} {rest : List Element} :
    TakesAsContent progress element rest ↔
      Line.content.Renders progress.context.mode.isScripting element := by
  refine Iff.trans ?_ Line.read_eq_content_iff
  constructor
  · intro taken
    by_contra other
    rcases pending_step taken other with same | empty
    · exact List.cons_ne_self _ _ same
    · exact List.cons_ne_nil _ _ empty
  · intro read
    rw [TakesAsContent, step, read]

def left : Except (Fault × List Element) Moved → List Element
  | .error found => found.2
  | .ok moved => moved.rest

def Leaves (element : Element) (rest left : List Element) : Prop :=
  left = rest ∨
    ∃ literal, rest = literal :: left ∧ element.ending = .before (.literal .double)

theorem Leaves.suffix {element : Element} {rest left : List Element}
    (leaves : Leaves element rest left) : left <:+ element :: rest := by
  rcases leaves with rfl | ⟨literal, rfl, -⟩
  · exact List.suffix_cons _ _
  · exact (List.suffix_cons _ _).trans (List.suffix_cons _ _)

theorem leaves_of_step {progress : Progress} {element : Element} {rest : List Element}
    {found : Except (Fault × List Element) Moved}
    (taken : step progress element rest = found) :
    Leaves element rest (left found) := by
  rw [step] at taken
  repeat' split at taken
  all_goals subst taken
  all_goals first
    | exact .inl rfl
    | exact .inr ⟨_, rfl, Line.ending_of_read (by assumption)⟩

theorem mode_of_step {progress : Progress} {element : Element} {rest : List Element}
    {moved : Moved} (taken : step progress element rest = .ok moved) :
    moved.progress.context.mode = progress.context.mode := by
  rcases step_part taken with ⟨part, -, moves⟩
  exact moves.mode

/-! ## The states of a pass -/

/-- The progress and the remaining elements of a pass over a script that has been
asked for batches any number of times, also behind faults. -/
inductive Reaches (script : List Char) (options : Options) :
    Progress → List Element → Prop
  | atStart :
      Reaches script options (.ofContext (.ofOptions options))
        (Cursor.ofScript script).elements.elements
  | behind {progress : Progress} {element : Element} {rest : List Element} {moved : Moved}
      (reached : Reaches script options progress (element :: rest))
      (taken : step progress element rest = .ok moved) :
      Reaches script options moved.progress moved.rest
  | behindFault {progress : Progress} {element : Element} {rest left : List Element}
      {fault : Fault} (reached : Reaches script options progress (element :: rest))
      (taken : step progress element rest = .error (fault, left)) :
      Reaches script options progress left

/-- A pass that waits for its next request is in such a state. At the end of the script
its open batch may have been closed behind it. -/
structure Waits (script : List Char) (options : Options) (pass : Pass) (state : Progress) :
    Prop where
  reached : Reaches script options state pass.elements
  context : pass.progress.context = state.context
  inside : pass.elements ≠ [] → pass.progress = state

namespace Reaches

variable {script : List Char} {options : Options} {progress : Progress}

theorem advance (unterminated : Option Unterminated) {elements : List Element}
    (reached : Reaches script options progress elements) :
    ∃ state, Waits script options (Pass.advance unterminated progress elements).2 state := by
  induction progress, elements using induct with
  | atEnd progress =>
    refine ⟨progress, ?_⟩
    unfold Pass.advance finish
    repeat' split
    all_goals exact ⟨reached, rfl, fun remain => absurd rfl remain⟩
  | atFault progress element rest found taken =>
    rw [advance_cons, taken]
    exact ⟨progress, reached.behindFault taken, rfl, fun _ => rfl⟩
  | before progress element rest moved taken induction =>
    rw [advance_cons, taken]
    have onward := reached.behind taken
    rcases moved with ⟨batch, next, left⟩
    cases batch with
    | none => exact induction onward
    | some batch => exact ⟨next, onward, rfl, fun _ => rfl⟩

theorem mode {elements : List Element} (reached : Reaches script options progress elements) :
    progress.context.mode = options.mode := by
  induction reached with
  | atStart => rfl
  | behind _ taken induction => exact (mode_of_step taken).trans induction
  | behindFault _ _ induction => exact induction

theorem suffix {elements : List Element} (reached : Reaches script options progress elements) :
    elements <:+ (Cursor.ofScript script).elements.elements := by
  induction reached with
  | atStart => exact List.suffix_rfl
  | behind _ taken induction => exact (leaves_of_step taken).suffix.trans induction
  | behindFault _ taken induction => exact (leaves_of_step taken).suffix.trans induction

theorem announces {elements : List Element}
    (reached : Reaches script options progress elements) :
    List.IsChain Element.Announces elements :=
  (Cursor.announces_elements (Cursor.ofScript script)).suffix reached.suffix

theorem behind_first {element : Element} {rest : List Element}
    (reached : Reaches script options progress (element :: rest)) :
    ∃ next left, Reaches script options next left ∧ Leaves element rest left := by
  cases taken : step progress element rest with
  | ok moved => exact ⟨_, _, reached.behind taken, leaves_of_step taken⟩
  | error found => exact ⟨_, _, reached.behindFault taken, leaves_of_step taken⟩

/-- No run of plain text is passed over: the only elements that are taken together
with another one are literals. -/
theorem visits {preceding : List Element} {element : Element} {following : List Element}
    (isText : element.kind = .text)
    (reached : Reaches script options progress (preceding ++ element :: following)) :
    ∃ visited, Reaches script options visited (element :: following) := by
  induction length : preceding.length using Nat.strong_induction_on
    generalizing preceding progress with
  | _ size induction =>
    cases preceding with
    | nil => exact ⟨progress, reached⟩
    | cons first preceding =>
      rw [List.length_cons] at length
      rcases reached.behind_first with ⟨next, left, onward, rfl | ⟨literal, split, ends⟩⟩
      · exact induction preceding.length (by omega) onward rfl
      · cases preceding with
        | nil =>
          rcases List.cons.inj split with ⟨rfl, -⟩
          have announced := (List.isChain_cons_cons.mp reached.announces).1
          exact absurd (isText.symm.trans (announced _ ends)) (by simp)
        | cons second preceding =>
          rcases List.cons.inj split with ⟨-, rfl⟩
          rw [List.length_cons] at length
          exact induction preceding.length (by omega) onward rfl

end Reaches

theorem Waits.nextBatch {script : List Char} {options : Options} {pass : Pass}
    {state : Progress} (waits : Waits script options pass state) :
    ∃ next, Waits script options (pass.nextBatch false).2 next := by
  rcases pass with ⟨elements, unterminated, progress⟩
  have asked : Pass.nextBatch ⟨elements, unterminated, progress⟩ false =
      advance unterminated progress elements := rfl
  rw [asked]
  cases elements with
  | nil =>
    refine ⟨state, ?_⟩
    unfold advance finish
    repeat' split
    all_goals exact ⟨waits.reached, waits.context, fun remain => absurd rfl remain⟩
  | cons element rest =>
    have here : progress = state := waits.inside (List.cons_ne_nil element rest)
    rw [here]
    exact waits.reached.advance unterminated

/-! ## When nothing but content goes on behind other text -/

/-- Whatever a pass over the script does not take as content has only blanks and
comments in front of it on its line. -/
def AnchorsLines (script : List Char) (options : Options) : Prop :=
  ∀ progress preceding element following,
    (Cursor.ofScript script).elements.elements = preceding ++ element :: following →
    Reaches script options progress (element :: following) →
    ¬ TakesAsContent progress element following → LineAnchored preceding

theorem anchorsLines_of_content {script : List Char} {options : Options}
    (content : ∀ preceding element following,
      (Cursor.ofScript script).elements.elements = preceding ++ element :: following →
      ContinuesLine preceding → Line.content.Renders options.mode.isScripting element) :
    AnchorsLines script options := by
  intro progress preceding element following scanned reached notContent
  by_contra notAnchored
  have renders := content preceding element following scanned
    (not_lineAnchored_iff.mp notAnchored)
  rw [← reached.mode] at renders
  exact notContent (takesAsContent_iff.mpr renders)

theorem AnchorsLines.content {script : List Char} {options : Options}
    (anchors : AnchorsLines script options) {preceding : List Element} {element : Element}
    {following : List Element}
    (scanned : (Cursor.ofScript script).elements.elements = preceding ++ element :: following)
    (continues : ContinuesLine preceding) :
    Line.content.Renders options.mode.isScripting element := by
  by_cases isText : element.kind = .text
  · have start : Reaches script options (.ofContext (.ofOptions options))
        (preceding ++ element :: following) := scanned ▸ .atStart
    rcases start.visits isText with ⟨progress, reached⟩
    by_contra other
    have notContent : ¬ TakesAsContent progress element following := by
      rwa [takesAsContent_iff, reached.mode]
    exact not_lineAnchored_iff.mpr continues
      (anchors progress preceding element following scanned reached notContent)
  · exact Line.renders_content (Line.firstWord?_of_kind_ne isText)

/-- Separators and directives stand in front of their lines exactly in the scripts in
which no text that goes on behind a literal or other text on its line begins with
what looks like one. -/
theorem anchorsLines_iff (script : List Char) (options : Options) :
    AnchorsLines script options ↔
      ∀ preceding element following,
        (Cursor.ofScript script).elements.elements = preceding ++ element :: following →
        ContinuesLine preceding →
        element.isSeparator = false ∧
          (options.mode.isScripting && element.isDirective) = false := by
  constructor
  · intro anchors preceding element following scanned continues
    exact anchors.content scanned continues
  · exact anchorsLines_of_content

/-- An alias behind a literal is taken for a separator, and a cast for a directive. -/
theorem not_anchorsLines_of_alias_and_cast :
    ¬ AnchorsLines "SELECT 'x' go\n".toList { mode := .normal } ∧
      ¬ AnchorsLines "SELECT '1'::int".toList {} := by
  constructor
  · intro anchors
    have scanned : (Cursor.ofScript "SELECT 'x' go\n".toList).elements.elements =
        ([⟨.text, "SELECT ".toList, .start, .before (.literal .single)⟩] ++
          [⟨.literal .single, "'x'".toList, ⟨1, 8⟩, .none⟩]) ++
        [⟨.text, " go\n".toList, ⟨1, 11⟩, .endOfLine⟩] := by decide +kernel
    have content := anchors.content scanned
      (continuesLine_of_literal _ rfl (by decide) (by decide))
    exact absurd content.1 (by decide)
  · intro anchors
    have scanned : (Cursor.ofScript "SELECT '1'::int".toList).elements.elements =
        ([⟨.text, "SELECT ".toList, .start, .before (.literal .single)⟩] ++
          [⟨.literal .single, "'1'".toList, ⟨1, 8⟩, .none⟩]) ++
        [⟨.text, "::int".toList, ⟨1, 11⟩, .endOfScript⟩] := by decide +kernel
    have content := anchors.content scanned
      (continuesLine_of_literal _ rfl (by decide) (by decide))
    exact absurd content.2 (by decide)

end Pass

end Batchwise
