import Batchwise.Proofs.Element.Tokenization
import Batchwise.Proofs.Pass.Part

namespace Batchwise

/-! What a pass accepts and what it rejects. A pass takes a script construct by
construct: an element alone, or an assignment with the literal that has to stand right
behind it. A malformed construct is always a single element, and it changes nothing.
Where nothing is malformed, the constructs are the parts of the script. -/

def policyNamed? (word : List Char) : Option Bool :=
  if sameKeyword word "IGNORE".toList then some true
  else if sameKeyword word "EXIT".toList then some false
  else none

namespace Element

def policy? (element : Element) : Option Bool :=
  match words element.text with
  | [command, event, policy] =>
    if sameKeyword command ":ON".toList && sameKeyword event "ERROR".toList
        && element.ending.isLineEnd then policyNamed? policy
    else none
  | _ => none

def assignsLiteral (element : Element) : Bool :=
  element.awaitsLiteral && element.ending = .before (.literal .double)

def assignsWord (element : Element) : Bool :=
  match words element.text with
  | [command, _, _] => sameKeyword command ":SETVAR".toList && element.ending.isLineEnd
  | _ => false

def directs (element : Element) : Bool :=
  element.assignsLiteral || element.assignsWord || element.policy?.isSome

def misdirection (element : Element) : Malformation :=
  let command := (words element.text).headD []
  if sameKeyword command ":SETVAR".toList || sameKeyword command ":ON".toList
      || !element.ending.isLineEnd then .directive command
  else .unknownDirective

end Element

/-- The constructs of a script. A malformed assignment stands alone, whatever is behind
it. -/
def constructs (scripting : Bool) : List Element → List Part
  | [] => []
  | element :: rest =>
    if element.isSeparator then .separator element :: constructs scripting rest
    else if scripting && element.isDirective then
      match rest with
      | [] => [.directive element none]
      | literal :: behind =>
        if element.assignsLiteral then
          .directive element (some literal) :: constructs scripting behind
        else .directive element none :: constructs scripting (literal :: behind)
    else .content element :: constructs scripting rest

theorem elements_constructs (scripting : Bool) (elements : List Element) :
    (constructs scripting elements).flatMap Part.elements = elements := by
  fun_induction constructs scripting elements with
  | case1 => rfl
  | case2 element rest _ induction => exact congrArg (element :: ·) induction
  | case3 element => rfl
  | case4 element _ _ literal behind _ induction =>
      exact congrArg (element :: literal :: ·) induction
  | case5 element _ _ literal behind _ induction => exact congrArg (element :: ·) induction
  | case6 element rest _ _ induction => exact congrArg (element :: ·) induction

namespace Part

def head : Part → Element
  | separator element | directive element _ | content element => element

def malformation? (context : Context) : Part → Option Malformation
  | separator element =>
    if element.ending.isLineEnd && (context.separatorCount element).isSome then none
    else some .separator
  | directive element _ => if element.directs then none else some element.misdirection
  | content _ => none

end Part

theorem Part.count_of_accepted {context : Context} {element : Element}
    (accepted : (Part.separator element).malformation? context = none) :
    ∃ count, context.separatorCount element = some count := by
  rw [← Option.isSome_iff_exists]
  by_contra uncounted
  simp [malformation?, uncounted] at accepted

def Context.past (context : Context) : Part → Context
  | .directive element literal =>
    if element.directs then context.direct element literal else context
  | .separator _ | .content _ => context

namespace Progress

def closed? (progress : Progress) (part : Part) : Option Batch :=
  match part, part.malformation? progress.context with
  | .separator element, none =>
    if progress.pending.isEmpty then none
    else (progress.context.separatorCount element).map progress.close
  | _, _ => none

def past (progress : Progress) (part : Part) : Progress :=
  match part.malformation? progress.context with
  | some _ => progress
  | none =>
    match part with
    | .separator _ => if progress.pending.isEmpty then progress else progress.clear
    | .directive element literal =>
      { progress with context := progress.context.direct element literal }
    | .content element => progress.append element

theorem context_past (progress : Progress) (part : Part) :
    (progress.past part).context = progress.context.past part := by
  cases part with
  | separator element =>
      simp only [past]
      repeat' split
      all_goals rfl
  | directive element literal =>
      rw [Context.past, past.eq_def, Part.malformation?]
      cases element.directs <;> rfl
  | content element => rfl

end Progress

/-! Behind several constructs. -/

def Context.pastAll (context : Context) (front : List Part) : Context :=
  front.foldl Context.past context

def Progress.pastAll (progress : Progress) (front : List Part) : Progress :=
  front.foldl Progress.past progress

theorem Progress.context_pastAll (progress : Progress) (front : List Part) :
    (progress.pastAll front).context = progress.context.pastAll front := by
  induction front generalizing progress with
  | nil => rfl
  | cons part rest induction =>
      refine (induction (progress.past part)).trans ?_
      rw [context_past]
      rfl

theorem Progress.pastAll_concat (progress : Progress) (front : List Part) (part : Part) :
    progress.pastAll (front ++ [part]) = (progress.pastAll front).past part :=
  List.foldl_concat ..

theorem Context.mode_past (context : Context) (part : Part) :
    (context.past part).mode = context.mode := by
  cases part with
  | separator | content => rfl
  | directive element literal =>
      rw [past]
      split
      · exact mode_direct _ _ _
      · rfl

theorem Context.mode_pastAll (context : Context) (front : List Part) :
    (context.pastAll front).mode = context.mode := by
  induction front generalizing context with
  | nil => rfl
  | cons part rest induction =>
      exact (induction (context.past part)).trans (context.mode_past part)

theorem Progress.mode_pastAll (progress : Progress) (front : List Part) :
    (progress.pastAll front).context.mode = progress.context.mode := by
  rw [context_pastAll, Context.mode_pastAll]

/-! ## How a directive is judged -/

theorem not_sameKeyword {word first second : List Char}
    (same : sameKeyword word first = true) (different : sameKeyword first second = false) :
    sameKeyword word second = false := by
  rw [sameKeyword, beq_iff_eq] at same
  rwa [sameKeyword, same]

theorem policyNamed?_eq_some_iff {word : List Char} {continueOnError : Bool} :
    policyNamed? word = some continueOnError ↔
      sameKeyword word (if continueOnError then "IGNORE" else "EXIT").toList = true := by
  rw [policyNamed?]
  cases ignores : sameKeyword word "IGNORE".toList with
  | true =>
      have notExit : sameKeyword word "EXIT".toList = false :=
        not_sameKeyword ignores (by decide)
      rw [if_pos rfl]
      cases continueOnError with
      | true => exact iff_of_true rfl ignores
      | false => exact iff_of_false (by decide) (Bool.eq_false_iff.mp notExit)
  | false =>
      rw [if_neg Bool.false_ne_true]
      cases continueOnError with
      | true =>
          refine iff_of_false ?_ (Bool.eq_false_iff.mp ignores)
          split <;> decide
      | false => simp

namespace Element

variable {element : Element}

theorem assignsLiteral_iff :
    element.assignsLiteral = true ↔
      ∃ command name, words element.text = [command, name] ∧
        sameKeyword command ":SETVAR".toList = true ∧
        element.ending = .before (.literal .double) := by
  rw [assignsLiteral, awaitsLiteral, Bool.and_eq_true, decide_eq_true_iff]
  split
  · rename_i command name split
    simp [split]
  · rename_i other
    simp only [Bool.false_eq_true, false_and, false_iff]
    intro literal
    rcases literal with ⟨command, name, split, -, -⟩
    exact other command name split

theorem assignsWord_iff :
    element.assignsWord = true ↔
      ∃ command name value, words element.text = [command, name, value] ∧
        sameKeyword command ":SETVAR".toList = true ∧ element.ending.isLineEnd = true := by
  rw [assignsWord]
  split
  · rename_i command name value split
    simp [split]
  · rename_i other
    simp only [Bool.false_eq_true, false_iff]
    intro word
    rcases word with ⟨command, name, value, split, -, -⟩
    exact other command name value split

theorem policy?_eq_some_iff {continueOnError : Bool} :
    element.policy? = some continueOnError ↔
      ∃ command event policy, words element.text = [command, event, policy] ∧
        sameKeyword command ":ON".toList = true ∧
        sameKeyword event "ERROR".toList = true ∧ element.ending.isLineEnd = true ∧
        sameKeyword policy (if continueOnError then "IGNORE" else "EXIT").toList = true := by
  rw [policy?]
  split
  · rename_i command event policy split
    simp only [Option.ite_none_right_eq_some, policyNamed?_eq_some_iff, Bool.and_eq_true,
      and_assoc, split]
    constructor
    · intro sets
      exact ⟨command, event, policy, rfl, sets⟩
    · intro sets
      rcases sets with ⟨_, _, _, equal, sets⟩
      cases equal
      exact sets
  · rename_i other
    simp only [reduceCtorEq, false_iff]
    intro sets
    rcases sets with ⟨command, event, policy, split, -⟩
    exact other command event policy split

theorem directs_iff :
    element.directs = true ↔
      element.assignsLiteral = true ∨ element.assignsWord = true ∨
        ∃ continueOnError, element.policy? = some continueOnError := by
  rw [directs, Bool.or_eq_true, Bool.or_eq_true, Option.isSome_iff_exists, or_assoc]

theorem assignsLiteral_of_directs (awaits : element.awaitsLiteral = true)
    (directs : element.directs = true) : element.assignsLiteral = true := by
  rcases directs_iff.mp directs with literal | word | ⟨continueOnError, policy⟩
  · exact literal
  · rcases assignsWord_iff.mp word with ⟨command, name, value, split, -⟩
    simp [awaitsLiteral, split] at awaits
  · rcases policy?_eq_some_iff.mp policy with ⟨command, event, policy, split, -⟩
    simp [awaitsLiteral, split] at awaits

end Element

namespace Line

section Directive

variable {element : Element} {command : List Char} {operands : List (List Char)}

theorem directs_of_readDirective {line : Line}
    (split : words element.text = command :: operands)
    (read : readDirective command operands element.ending = .ok line) :
    element.directs = true := by
  rw [Element.directs_iff]
  simp only [readDirective] at read
  repeat' split at read
  all_goals cases read
  · rename_i assigns _ _ _ ends
    exact .inl (Element.assignsLiteral_iff.mpr ⟨command, _, split, assigns, ends⟩)
  · rename_i assigns _ _ _ _ ends
    exact .inr (.inl (Element.assignsWord_iff.mpr ⟨command, _, _, split, assigns, ends⟩))
  · rename_i ends isOn _ event policy isError ignores
    refine .inr (.inr ⟨true, Element.policy?_eq_some_iff.mpr ?_⟩)
    exact ⟨command, event, policy, split, isOn, by simpa using isError, by simpa using ends,
      ignores⟩
  · rename_i ends isOn _ event policy isError _ exits
    refine .inr (.inr ⟨false, Element.policy?_eq_some_iff.mpr ?_⟩)
    exact ⟨command, event, policy, split, isOn, by simpa using isError, by simpa using ends,
      exits⟩

theorem readDirective_of_directs (split : words element.text = command :: operands)
    (directs : element.directs = true) :
    ∃ line, readDirective command operands element.ending = .ok line := by
  rcases Element.directs_iff.mp directs with literal | word | ⟨continueOnError, sets⟩
  · rcases Element.assignsLiteral_iff.mp literal with ⟨_, name, equal, assigns, ends⟩
    cases split.symm.trans equal
    simp only [readDirective, if_pos assigns, ends]
    exact ⟨_, rfl⟩
  · rcases Element.assignsWord_iff.mp word with ⟨_, name, value, equal, assigns, ends⟩
    cases split.symm.trans equal
    simp only [readDirective, if_pos assigns, if_pos ends]
    exact ⟨_, rfl⟩
  · rcases Element.policy?_eq_some_iff.mp sets with
      ⟨_, event, policy, equal, isOn, isError, ends, keyword⟩
    cases split.symm.trans equal
    have other : sameKeyword command ":SETVAR".toList = false :=
      not_sameKeyword isOn (by decide)
    cases ignores : sameKeyword policy "IGNORE".toList with
    | true =>
        refine ⟨.onError true, ?_⟩
        simp only [readDirective, other, ends, isOn, isError, ignores]
        rfl
    | false =>
        cases continueOnError with
        | true => exact absurd (keyword.symm.trans ignores) (by decide)
        | false =>
            have exits : sameKeyword policy "EXIT".toList = true := keyword
            refine ⟨.onError false, ?_⟩
            simp only [readDirective, other, ends, isOn, isError, ignores, exits]
            rfl

theorem misdirects_of_readDirective {malformation : Malformation}
    (split : words element.text = command :: operands)
    (read : readDirective command operands element.ending = .error malformation) :
    element.directs = false ∧ element.misdirection = malformation := by
  constructor
  · rw [Bool.eq_false_iff]
    intro directs
    rcases readDirective_of_directs split directs with ⟨line, accepted⟩
    rw [read] at accepted
    cases accepted
  · simp only [readDirective] at read
    repeat' split at read
    all_goals cases read
    all_goals simp_all [Element.misdirection]

end Directive

section Read

variable {scripting : Bool} {element : Element}

theorem words_of_isDirective (directive : element.isDirective = true) :
    ∃ command operands, words element.text = command :: operands := by
  cases split : words element.text with
  | nil =>
      rw [Element.isDirective, firstWord?_of_no_words split] at directive
      cases directive
  | cons command operands => exact ⟨command, operands, rfl⟩

theorem read_of_isSeparator (separates : element.isSeparator = true) :
    Line.read scripting element =
      if element.ending.isLineEnd then .ok (.separator (words element.text)[1]?)
      else .error .separator := by
  have isText := kind_of_isSeparator separates
  rw [Line.read, isText]
  cases split : words element.text with
  | nil =>
      rw [Element.isSeparator, firstWord?_of_no_words split] at separates
      cases separates
  | cons first operands =>
      rw [isSeparator_of_words isText split] at separates
      simp only [readWords, if_pos separates]
      cases operands <;> rfl

theorem read_of_isDirective {command : List Char} {operands : List (List Char)}
    (split : words element.text = command :: operands)
    (notSeparator : element.isSeparator = false)
    (isDirective : (scripting && element.isDirective) = true) :
    Line.read scripting element = readDirective command operands element.ending := by
  have isText := kind_of_isDirective (Bool.and_eq_true_iff.mp isDirective).2
  rw [isSeparator_of_words isText split] at notSeparator
  rw [isDirective_of_words isText split] at isDirective
  rw [Line.read, isText]
  simp only [split, readWords, notSeparator, Bool.false_eq_true, if_false, if_pos isDirective]

theorem accepts_of_read {line : Line} (read : Line.read scripting element = .ok line) :
    (element.isSeparator = true → element.ending.isLineEnd = true) ∧
      (element.isSeparator = false → (scripting && element.isDirective) = true →
        element.directs = true) := by
  constructor
  · intro separates
    rw [read_of_isSeparator separates] at read
    by_contra more
    rw [if_neg more] at read
    cases read
  · intro notSeparator isDirective
    rcases words_of_isDirective (Bool.and_eq_true_iff.mp isDirective).2 with
      ⟨command, operands, split⟩
    rw [read_of_isDirective split notSeparator isDirective] at read
    exact directs_of_readDirective split read

theorem rejects_of_read {malformation : Malformation}
    (read : Line.read scripting element = .error malformation) :
    element.isSeparator = true ∧ element.ending.isLineEnd = false ∧
        malformation = .separator ∨
      element.isSeparator = false ∧ (scripting && element.isDirective) = true ∧
        element.directs = false ∧ malformation = element.misdirection := by
  cases separates : element.isSeparator with
  | true =>
      rw [read_of_isSeparator separates] at read
      cases ends : element.ending.isLineEnd with
      | true =>
          rw [ends] at read
          cases read
      | false =>
          rw [ends] at read
          cases read
          exact .inl ⟨rfl, rfl, rfl⟩
  | false =>
      cases isDirective : scripting && element.isDirective with
      | false =>
          rw [read_eq_content_iff.mpr ⟨separates, isDirective⟩] at read
          cases read
      | true =>
          rcases words_of_isDirective (Bool.and_eq_true_iff.mp isDirective).2 with
            ⟨command, operands, split⟩
          rw [read_of_isDirective split separates isDirective] at read
          rcases misdirects_of_readDirective split read with ⟨misdirects, told⟩
          exact .inr ⟨rfl, rfl, misdirects, told.symm⟩

end Read

end Line

/-! ## A step takes one construct -/

def Part.Suits (scripting : Bool) : Part → Prop
  | separator element => element.isSeparator = true
  | directive element _ =>
    element.isSeparator = false ∧ (scripting && element.isDirective) = true
  | content element =>
    element.isSeparator = false ∧ (scripting && element.isDirective) = false

section Step

variable {scripting : Bool} {element : Element} {rest : List Element}

theorem constructs_of_directive (notSeparator : element.isSeparator = false)
    (isDirective : (scripting && element.isDirective) = true)
    (alone : element.assignsLiteral = false) :
    constructs scripting (element :: rest) =
      .directive element none :: constructs scripting rest := by
  cases rest <;> simp [constructs, notSeparator, isDirective, alone]

theorem constructs_of_separator (separates : element.isSeparator = true) :
    constructs scripting (element :: rest) =
      .separator element :: constructs scripting rest := by
  cases rest <;> simp [constructs, separates]

theorem constructs_of_content (notSeparator : element.isSeparator = false)
    (notDirective : (scripting && element.isDirective) = false) :
    constructs scripting (element :: rest) =
      .content element :: constructs scripting rest := by
  cases rest <;> simp [constructs, notSeparator, notDirective]

theorem constructs_of_last_directive (notSeparator : element.isSeparator = false)
    (isDirective : (scripting && element.isDirective) = true) :
    constructs scripting [element] = [.directive element none] := by
  simp [constructs, notSeparator, isDirective]

theorem constructs_of_assignment {literal : Element} {behind : List Element}
    (notSeparator : element.isSeparator = false)
    (isDirective : (scripting && element.isDirective) = true)
    (assigns : element.assignsLiteral = true) :
    constructs scripting (element :: literal :: behind) =
      .directive element (some literal) :: constructs scripting behind := by
  simp [constructs, notSeparator, isDirective, assigns]

theorem constructs_cons (chain : List.IsChain Element.Announces (element :: rest))
    (complete : element.isSeparator = false → (scripting && element.isDirective) = true →
      element.directs = true) :
    ∃ part left, parts scripting (element :: rest) = part :: parts scripting left ∧
      constructs scripting (element :: rest) = part :: constructs scripting left ∧
      part.head = element ∧ part.Suits scripting := by
  cases separates : element.isSeparator with
  | true =>
      exact ⟨.separator element, rest, parts_of_separator rest separates,
        constructs_of_separator separates, rfl, separates⟩
  | false =>
      cases isDirective : scripting && element.isDirective with
      | false =>
          exact ⟨.content element, rest, parts_of_content rest separates isDirective,
            constructs_of_content separates isDirective, rfl, separates, isDirective⟩
      | true =>
          cases awaits : element.awaitsLiteral with
          | false =>
              have alone : element.assignsLiteral = false := by
                rw [Element.assignsLiteral, awaits]
                rfl
              exact ⟨.directive element none, rest,
                parts_of_directive rest separates isDirective awaits,
                constructs_of_directive separates isDirective alone, rfl, separates,
                isDirective⟩
          | true =>
              have assigns := Element.assignsLiteral_of_directs awaits
                (complete separates isDirective)
              cases rest with
              | nil =>
                  refine ⟨.directive element none, [], ?_,
                    constructs_of_last_directive separates isDirective, rfl, separates,
                    isDirective⟩
                  simp [parts, separates, isDirective]
              | cons literal behind =>
                  rcases Element.assignsLiteral_iff.mp assigns with ⟨-, -, -, -, ends⟩
                  have quoted : literal.kind = .literal .double :=
                    (List.isChain_cons_cons.mp chain).1 _ ends
                  exact ⟨.directive element (some literal), behind,
                    parts_of_assignment behind separates isDirective awaits quoted,
                    constructs_of_assignment separates isDirective assigns, rfl, separates,
                    isDirective⟩

end Step

theorem parts_injective {scripting : Bool} {first second : List Element}
    (same : parts scripting first = parts scripting second) : first = second := by
  rw [← elements_parts scripting first, same, elements_parts]

theorem eq_append_of_constructs {scripting : Bool} {elements left : List Element} {part : Part}
    (split : constructs scripting elements = part :: constructs scripting left) :
    elements = part.elements ++ left := by
  rw [← elements_constructs scripting elements, split, List.flatMap_cons, elements_constructs]

namespace Pass

variable {progress : Progress} {element : Element} {rest : List Element}

theorem construct_of_step {moved : Moved}
    (chain : List.IsChain Element.Announces (element :: rest))
    (taken : step progress element rest = .ok moved) :
    ∃ part, constructs progress.context.mode.isScripting (element :: rest) =
        part :: constructs progress.context.mode.isScripting moved.rest ∧
      part.malformation? progress.context = none ∧
      moved.progress = progress.past part ∧ moved.batch = progress.closed? part := by
  rcases step_part taken with ⟨part, split, moves⟩
  have accepts : ∃ line, Line.read progress.context.mode.isScripting element = .ok line := by
    rw [step] at taken
    cases read : Line.read progress.context.mode.isScripting element with
    | error malformation =>
        rw [read] at taken
        cases taken
    | ok line => exact ⟨line, rfl⟩
  rcases accepts with ⟨line, read⟩
  rcases Line.accepts_of_read read with ⟨ends, directs⟩
  rcases constructs_cons chain directs with ⟨other, left, asParts, asConstructs, head, suits⟩
  rw [split] at asParts
  rcases List.cons.inj asParts with ⟨rfl, same⟩
  cases parts_injective same
  have accepted : part.malformation? progress.context = none := by
    cases part with
    | separator own =>
        subst head
        have endsLine : own.ending.isLineEnd = true := ends suits
        rcases moves with ⟨count, counted, -⟩
        simp [Part.malformation?, endsLine, counted]
    | directive own literal =>
        subst head
        have accepted : own.directs = true := directs suits.1 suits.2
        simp [Part.malformation?, accepted]
    | content own => rfl
  refine ⟨part, asConstructs, accepted, ?_, ?_⟩
  · cases part with
    | separator own =>
        rcases moves with ⟨count, counted, moves⟩
        simp only [Progress.past, accepted]
        split at moves <;> simp_all
    | directive | content =>
        simp only [Progress.past, accepted]
        exact moves.2
  · cases part with
    | separator own =>
        rcases moves with ⟨count, counted, moves⟩
        simp only [Progress.closed?, accepted, counted]
        split at moves <;> simp_all
    | directive | content => exact moves.1

theorem construct_of_fault {found : Fault × List Element}
    (chain : List.IsChain Element.Announces (element :: rest))
    (taken : step progress element rest = .error found) :
    ∃ part, constructs progress.context.mode.isScripting (element :: rest) =
        part :: constructs progress.context.mode.isScripting rest ∧
      part.elements = [element] ∧ part.head = element ∧
      found = (⟨found.1.malformation, element.position⟩, rest) ∧
      part.malformation? progress.context = some found.1.malformation := by
  rw [step] at taken
  cases read : Line.read progress.context.mode.isScripting element with
  | error malformation =>
      rw [read] at taken
      cases taken
      rcases Line.rejects_of_read read with ⟨separates, endless, rfl⟩ |
        ⟨notSeparator, isDirective, misdirects, rfl⟩
      · refine ⟨.separator element, constructs_of_separator separates, rfl, rfl, rfl, ?_⟩
        simp [Part.malformation?, endless]
      · have alone : element.assignsLiteral = false := by
          cases assigns : element.assignsLiteral with
          | false => rfl
          | true =>
              rw [Element.directs, assigns] at misdirects
              cases misdirects
        refine ⟨.directive element none, constructs_of_directive notSeparator isDirective alone,
          rfl, rfl, rfl, ?_⟩
        simp [Part.malformation?, misdirects]
  | ok line =>
      have renders := Line.renders_of_read read
      rw [read] at taken
      cases line with
      | separator written =>
          rcases renders with ⟨separates, -, rfl⟩
          dsimp only at taken
          rw [progress.repeatCount_words] at taken
          cases counted : progress.context.separatorCount element with
          | none =>
              rw [counted] at taken
              cases taken
              refine ⟨.separator element, constructs_of_separator separates, rfl, rfl, rfl, ?_⟩
              simp [Part.malformation?, counted]
          | some count =>
              rw [counted] at taken
              dsimp only at taken
              split at taken <;> cases taken
      | assignLiteral name =>
          rcases renders with ⟨notSeparator, isDirective, command, _, split, rfl, assigns⟩
          have awaits : element.awaitsLiteral = true := by
            simp only [Element.awaitsLiteral, split, assigns]
          have directs := (Line.accepts_of_read read).2 notSeparator isDirective
          rcases Element.assignsLiteral_iff.mp
            (Element.assignsLiteral_of_directs awaits directs) with ⟨-, -, -, -, ends⟩
          cases rest with
          | nil => cases taken
          | cons literal behind =>
              have quoted : literal.kind = .literal .double :=
                (List.isChain_cons_cons.mp chain).1 _ ends
              dsimp only at taken
              rw [if_pos quoted] at taken
              cases taken
      | assign | onError | content => cases taken

end Pass

/-! ## A whole pass -/

def parsedFrom (unterminated : Option Unterminated) : Progress → List Part → Parsed
  | progress, [] => Pass.parse ⟨[], unterminated, progress⟩
  | progress, part :: rest =>
    match part.malformation? progress.context with
    | some malformation => ⟨[], some ⟨malformation, part.head.position⟩, progress.context⟩
    | none =>
      (parsedFrom unterminated (progress.past part) rest).deliver
        ((progress.closed? part).map fun batch =>
          ⟨batch, (progress.past part).context.continueOnError⟩)

theorem Pass.parse_constructs (unterminated : Option Unterminated) (progress : Progress)
    (elements : List Element) (chain : List.IsChain Element.Announces elements) :
    parse ⟨elements, unterminated, progress⟩ =
      parsedFrom unterminated progress
        (constructs progress.context.mode.isScripting elements) := by
  induction progress, elements using induct with
  | atEnd progress => rfl
  | atFault progress element rest found taken =>
      rcases construct_of_fault chain taken with ⟨part, split, -, head, fault, malformed⟩
      rw [parse_of_step_error _ taken, split, parsedFrom, malformed, head, fault]
  | before progress element rest moved taken induction =>
      rcases construct_of_step chain taken with ⟨part, split, accepted, next, closed⟩
      rw [eq_append_of_constructs split] at chain
      rw [parse_of_step _ taken, split, parsedFrom, accepted,
        induction (chain.suffix (List.suffix_append _ _)), Moved.delivery, closed, next,
        Progress.context_past, Context.mode_past]

end Batchwise
