import Batchwise.Proofs.Pass.Step

namespace Batchwise

/-! What the elements of a script are there for. A run of plain text is judged by
its words alone; whatever is neither a separator nor a directive is content. -/

namespace Element

def firstWord? (element : Element) : Option (List Char) :=
  match element.kind with
  | .text => (words element.text).head?
  | _ => none

def isSeparator (element : Element) : Bool :=
  element.firstWord?.any (sameKeyword · "GO".toList)

def isDirective (element : Element) : Bool :=
  element.firstWord?.any (·.head? == some ':')

/-- An assignment whose value is the literal behind it. -/
def awaitsLiteral (element : Element) : Bool :=
  match words element.text with
  | [command, _] => sameKeyword command ":SETVAR".toList
  | _ => false

end Element

inductive Part where
  | separator (element : Element)
  /-- A directive, with the literal that is its last operand. -/
  | directive (element : Element) (literal : Option Element)
  | content (element : Element)
  deriving DecidableEq, Repr

def Part.elements : Part → List Element
  | separator element => [element]
  | directive element literal => element :: literal.toList
  | content element => [element]

def parts (scripting : Bool) : List Element → List Part
  | [] => []
  | element :: rest =>
    if element.isSeparator then .separator element :: parts scripting rest
    else if scripting && element.isDirective then
      match rest with
      | [] => [.directive element none]
      | literal :: behind =>
        if element.awaitsLiteral && literal.kind = .literal .double then
          .directive element (some literal) :: parts scripting behind
        else .directive element none :: parts scripting (literal :: behind)
    else .content element :: parts scripting rest

theorem elements_parts (scripting : Bool) (elements : List Element) :
    (parts scripting elements).flatMap Part.elements = elements := by
  fun_induction parts scripting elements with
  | case1 => rfl
  | case2 element rest _ induction => exact congrArg (element :: ·) induction
  | case3 element => rfl
  | case4 element _ _ literal behind _ induction =>
    exact congrArg (element :: literal :: ·) induction
  | case5 element _ _ literal behind _ induction => exact congrArg (element :: ·) induction
  | case6 element rest _ _ induction => exact congrArg (element :: ·) induction

/-! What a line asks for, against the words it was read from. -/

namespace Line

def RendersWords (command : List Char) (operands : List (List Char)) : Line → Prop
  | assign name value =>
    operands = [name, value] ∧ sameKeyword command ":SETVAR".toList = true
  | assignLiteral name => operands = [name] ∧ sameKeyword command ":SETVAR".toList = true
  | onError continueOnError =>
    ∃ event policy, operands = [event, policy] ∧
      sameKeyword command ":SETVAR".toList = false ∧
      continueOnError = sameKeyword policy "IGNORE".toList
  | separator _ | content => False

theorem rendersWords_of_readDirective {command : List Char} {operands : List (List Char)}
    {ending : Ending} {line : Line} (read : readDirective command operands ending = .ok line) :
    line.RendersWords command operands := by
  simp only [readDirective] at read
  split at read
  · rename_i assigns
    split at read
    · cases read
      exact ⟨rfl, assigns⟩
    · split at read <;> cases read
      exact ⟨rfl, assigns⟩
    · cases read
  · rename_i notAssigns
    have other := Bool.eq_false_iff.mpr notAssigns
    repeat' split at read
    all_goals cases read
    · rename_i ignores
      exact ⟨_, _, rfl, other, ignores.symm⟩
    · rename_i notIgnores _
      exact ⟨_, _, rfl, other, (Bool.eq_false_iff.mpr notIgnores).symm⟩

def Renders (scripting : Bool) (element : Element) : Line → Prop
  | separator count =>
    element.isSeparator = true ∧ element.ending.isLineEnd = true ∧
      count = (words element.text)[1]?
  | content => element.isSeparator = false ∧ (scripting && element.isDirective) = false
  | line =>
    element.isSeparator = false ∧ (scripting && element.isDirective) = true ∧
      ∃ command operands, words element.text = command :: operands ∧
        line.RendersWords command operands

theorem isSeparator_of_words {element : Element} {first : List Char}
    {operands : List (List Char)} (isText : element.kind = .text)
    (split : words element.text = first :: operands) :
    element.isSeparator = sameKeyword first "GO".toList := by
  simp only [Element.isSeparator, Element.firstWord?, isText, split]
  rfl

theorem isDirective_of_words {element : Element} {first : List Char}
    {operands : List (List Char)} (isText : element.kind = .text)
    (split : words element.text = first :: operands) :
    element.isDirective = (first.head? == some ':') := by
  simp only [Element.isDirective, Element.firstWord?, isText, split]
  rfl

theorem firstWord?_of_no_words {element : Element} (noWords : words element.text = []) :
    element.firstWord? = none := by
  rw [Element.firstWord?]
  split
  · rw [noWords]
    rfl
  · rfl

theorem firstWord?_of_kind_ne {element : Element} (notText : element.kind ≠ .text) :
    element.firstWord? = none := by
  rw [Element.firstWord?]
  split
  · rename_i isText
    exact absurd isText notText
  · rfl

theorem renders_content {scripting : Bool} {element : Element}
    (noWord : element.firstWord? = none) : content.Renders scripting element := by
  constructor
  · rw [Element.isSeparator, noWord]
    rfl
  · rw [Element.isDirective, noWord]
    exact Bool.and_false _

theorem renders_of_read {scripting : Bool} {element : Element} {line : Line}
    (read : Line.read scripting element = .ok line) : line.Renders scripting element := by
  rw [Line.read] at read
  split at read
  · rename_i isText
    simp only [readWords] at read
    split at read
    · rename_i noWords
      cases read
      exact renders_content (firstWord?_of_no_words noWords)
    · rename_i first operands split
      have isSeparator := isSeparator_of_words isText split
      have isDirective := isDirective_of_words isText split
      split at read
      · rename_i separates
        split at read <;> cases read
        rename_i endsLine
        refine ⟨isSeparator.trans separates, endsLine, ?_⟩
        rw [split]
        cases operands <;> rfl
      · rename_i notSeparates
        have notSeparator := isSeparator.trans (Bool.eq_false_iff.mpr notSeparates)
        split at read
        · rename_i directs
          rw [← isDirective] at directs
          have renders := rendersWords_of_readDirective read
          cases line with
          | separator | content => exact absurd renders not_false
          | assign | assignLiteral | onError =>
            exact ⟨notSeparator, directs, first, operands, split, renders⟩
        · rename_i notDirects
          cases read
          rw [← isDirective] at notDirects
          exact ⟨notSeparator, Bool.eq_false_iff.mpr notDirects⟩
  · rename_i notText
    cases read
    exact renders_content (firstWord?_of_kind_ne notText)

/-- An element is content unless its first word makes it something else. -/
theorem read_eq_content_iff {scripting : Bool} {element : Element} :
    Line.read scripting element = .ok .content ↔ content.Renders scripting element := by
  constructor
  · exact renders_of_read
  · rintro ⟨notSeparator, notDirective⟩
    rw [Line.read]
    split
    · rename_i isText
      cases split : words element.text with
      | nil => rfl
      | cons first operands =>
        rw [isSeparator_of_words isText split] at notSeparator
        rw [isDirective_of_words isText split] at notDirective
        rw [readWords, notSeparator, notDirective, if_neg Bool.false_ne_true,
          if_neg Bool.false_ne_true]
    · rfl

end Line

/-! ## A step takes one part

The effect of a part on the progress depends on the part and the context
alone. -/

namespace Context

def separatorCount (context : Context) (element : Element) : Option Int :=
  match (words element.text)[1]? with
  | none => some 1
  | some written => readCount (context.expand written)

def direct (context : Context) (element : Element) (literal : Option Element) : Context :=
  match words element.text, literal with
  | [_, name], some literal => context.assign name (literal.content.getD [])
  | [command, first, second], _ =>
    if sameKeyword command ":SETVAR".toList then context.assign first second
    else { context with continueOnError := sameKeyword second "IGNORE".toList }
  | _, _ => context

theorem direct_of_assignment {element : Element} {command name value : List Char}
    (context : Context) (split : words element.text = [command, name, value])
    (assigns : sameKeyword command ":SETVAR".toList = true) :
    context.direct element none = context.assign name value := by
  simp only [direct, split]
  exact if_pos assigns

theorem direct_of_literal {element : Element} {command name : List Char}
    (context : Context) (literal : Element) (split : words element.text = [command, name]) :
    context.direct element (some literal) =
      context.assign name (literal.content.getD []) := by
  simp only [direct, split]

theorem direct_of_policy {element : Element} {command event policy : List Char}
    (context : Context) (split : words element.text = [command, event, policy])
    (other : sameKeyword command ":SETVAR".toList = false) :
    context.direct element none =
      { context with continueOnError := sameKeyword policy "IGNORE".toList } := by
  simp only [direct, split]
  exact if_neg (Bool.eq_false_iff.mp other)

@[simp] theorem mode_direct (context : Context) (element : Element)
    (literal : Option Element) : (context.direct element literal).mode = context.mode := by
  simp only [direct]
  repeat' split
  all_goals rfl

end Context

theorem Progress.repeatCount_words (progress : Progress) (element : Element) :
    progress.repeatCount (words element.text)[1]? =
      progress.context.separatorCount element := by
  rw [Context.separatorCount]
  cases (words element.text)[1]? <;> rfl

def Part.Moves (progress : Progress) (moved : Moved) : Part → Prop
  | separator element =>
    ∃ count, progress.context.separatorCount element = some count ∧
      if progress.pending.isEmpty then moved.batch = none ∧ moved.progress = progress
      else moved.batch = some (progress.close count) ∧ moved.progress = progress.clear
  | directive element literal =>
    moved.batch = none ∧
      moved.progress = { progress with context := progress.context.direct element literal }
  | content element => moved.batch = none ∧ moved.progress = progress.append element

theorem parts_of_separator {scripting : Bool} {element : Element} (rest : List Element)
    (isSeparator : element.isSeparator = true) :
    parts scripting (element :: rest) = .separator element :: parts scripting rest := by
  cases rest <;> simp [parts, isSeparator]

theorem parts_of_content {scripting : Bool} {element : Element} (rest : List Element)
    (notSeparator : element.isSeparator = false)
    (notDirective : (scripting && element.isDirective) = false) :
    parts scripting (element :: rest) = .content element :: parts scripting rest := by
  cases rest <;> simp [parts, notSeparator, notDirective]

theorem parts_of_directive {scripting : Bool} {element : Element} (rest : List Element)
    (notSeparator : element.isSeparator = false)
    (isDirective : (scripting && element.isDirective) = true)
    (complete : element.awaitsLiteral = false) :
    parts scripting (element :: rest) = .directive element none :: parts scripting rest := by
  cases rest with
  | nil => simp [parts, notSeparator, isDirective]
  | cons literal behind => simp [parts, notSeparator, isDirective, complete]

theorem parts_of_assignment {scripting : Bool} {element literal : Element}
    (rest : List Element) (notSeparator : element.isSeparator = false)
    (isDirective : (scripting && element.isDirective) = true)
    (awaits : element.awaitsLiteral = true) (quoted : literal.kind = .literal .double) :
    parts scripting (element :: literal :: rest) =
      .directive element (some literal) :: parts scripting rest := by
  simp [parts, notSeparator, isDirective, awaits, quoted]

theorem Pass.step_part {progress : Progress} {element : Element} {rest : List Element}
    {moved : Moved} (taken : step progress element rest = .ok moved) :
    ∃ part, parts progress.context.mode.isScripting (element :: rest) =
        part :: parts progress.context.mode.isScripting moved.rest ∧
      part.Moves progress moved := by
  rw [step] at taken
  cases read : Line.read progress.context.mode.isScripting element with
  | error malformation =>
    rw [read] at taken
    cases taken
  | ok line =>
    have renders := Line.renders_of_read read
    rw [read] at taken
    cases line with
    | separator written =>
      rcases renders with ⟨isSeparator, -, rfl⟩
      dsimp only at taken
      rw [progress.repeatCount_words] at taken
      cases counted : progress.context.separatorCount element with
      | none =>
        rw [counted] at taken
        cases taken
      | some count =>
        rw [counted] at taken
        dsimp only at taken
        refine ⟨.separator element, ?_, count, counted, ?_⟩
        · rw [parts_of_separator rest isSeparator]
          split at taken <;> cases taken <;> rfl
        · split at taken <;> cases taken <;> simp_all
    | assign name value =>
      rcases renders with ⟨notSeparator, isDirective, command, _, split, rfl, assigns⟩
      cases taken
      refine ⟨.directive element none, ?_, rfl, ?_⟩
      · exact parts_of_directive rest notSeparator isDirective (by simp [Element.awaitsLiteral, split])
      · rw [Context.direct_of_assignment _ split assigns]
        rfl
    | assignLiteral name =>
      rcases renders with ⟨notSeparator, isDirective, command, _, split, rfl, assigns⟩
      have awaits : element.awaitsLiteral = true := by
        simp only [Element.awaitsLiteral, split, assigns]
      cases rest with
      | nil =>
        cases taken
        refine ⟨.directive element none, ?_, rfl, ?_⟩
        · simp [parts, notSeparator, isDirective]
        · simp only [Context.direct, split]
      | cons literal behind =>
        dsimp only at taken
        split at taken <;> cases taken
        rename_i quoted
        refine ⟨.directive element (some literal), ?_, rfl, ?_⟩
        · exact parts_of_assignment behind notSeparator isDirective awaits quoted
        · rw [Context.direct_of_literal _ literal split]
          rfl
    | onError continueOnError =>
      rcases renders
        with ⟨notSeparator, isDirective, command, _, split, event, policy, rfl, other, value⟩
      cases taken
      refine ⟨.directive element none, ?_, rfl, ?_⟩
      · exact parts_of_directive rest notSeparator isDirective (by simp [Element.awaitsLiteral, split])
      · rw [Context.direct_of_policy _ split other, ← value]
        rfl
    | content =>
      rcases renders with ⟨notSeparator, notDirective⟩
      cases taken
      exact ⟨.content element, parts_of_content rest notSeparator notDirective, rfl, rfl⟩

theorem Part.Moves.mode {progress : Progress} {moved : Moved} {part : Part}
    (moves : part.Moves progress moved) :
    moved.progress.context.mode = progress.context.mode := by
  cases part with
  | separator element =>
    rcases moves with ⟨count, -, moves⟩
    split at moves <;> rw [moves.2]
    rfl
  | directive element literal =>
    rw [moves.2]
    exact Context.mode_direct _ _ _
  | content element =>
    rw [moves.2]
    rfl

/-! ## What a step takes -/

theorem kind_of_isSeparator {element : Element} (separates : element.isSeparator = true) :
    element.kind = .text := by
  cases kind : element.kind with
  | text => rfl
  | lineComment | blockComment | literal =>
      rw [Element.isSeparator, Element.firstWord?, kind] at separates
      cases separates

theorem kind_of_isDirective {element : Element} (directive : element.isDirective = true) :
    element.kind = .text := by
  cases kind : element.kind with
  | text => rfl
  | lineComment | blockComment | literal =>
      rw [Element.isDirective, Element.firstWord?, kind] at directive
      cases directive

theorem not_isSeparator_of_literal {element : Element} {quote : Quote}
    (isLiteral : element.kind = .literal quote) : element.isSeparator = false := by
  cases separates : element.isSeparator with
  | false => rfl
  | true =>
      have isText := kind_of_isSeparator separates
      rw [isLiteral] at isText
      cases isText

def Part.Judged : Part → Prop
  | separator element => element.isSeparator = true
  | directive element literal => ∀ other ∈ element :: literal.toList, other.isSeparator = false
  | content element => element.isSeparator = false

theorem judged_of_mem_parts {scripting : Bool} {elements : List Element} {part : Part}
    (member : part ∈ parts scripting elements) : part.Judged := by
  fun_induction parts scripting elements with
  | case1 => cases member
  | case2 element rest isSeparator induction =>
      rcases List.mem_cons.mp member with rfl | behind
      · exact isSeparator
      · exact induction behind
  | case3 element notSeparator _ =>
      rcases List.mem_singleton.mp member with rfl
      simpa [Part.Judged] using notSeparator
  | case4 element notSeparator _ literal behind waits induction =>
      rcases List.mem_cons.mp member with rfl | following
      · have isLiteral : literal.kind = .literal .double := by
          simpa using (Bool.and_eq_true_iff.mp waits).2
        have notSeparatorToo := not_isSeparator_of_literal isLiteral
        simpa [Part.Judged, notSeparatorToo] using notSeparator
      · exact induction following
  | case5 element notSeparator _ literal behind _ induction =>
      rcases List.mem_cons.mp member with rfl | following
      · simpa [Part.Judged] using notSeparator
      · exact induction following
  | case6 element rest notSeparator _ induction =>
      rcases List.mem_cons.mp member with rfl | behind
      · exact Bool.eq_false_iff.mpr notSeparator
      · exact induction behind

theorem Pass.step_takes {progress : Progress} {element : Element} {rest : List Element}
    {moved : Moved} (taken : step progress element rest = .ok moved) :
    ∃ part : Part, element :: rest = part.elements ++ moved.rest ∧ part.Judged ∧
      part.Moves progress moved := by
  rcases step_part taken with ⟨part, split, moves⟩
  have whole := elements_parts progress.context.mode.isScripting (element :: rest)
  rw [split, List.flatMap_cons, elements_parts] at whole
  have member : part ∈ parts progress.context.mode.isScripting (element :: rest) := by
    rw [split]
    exact List.mem_cons_self
  exact ⟨part, whole.symm, judged_of_mem_parts member, moves⟩

end Batchwise
