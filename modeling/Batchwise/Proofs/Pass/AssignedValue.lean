import Batchwise.Proofs.Element.Concatenation
import Batchwise.Proofs.Element.PlainText
import Batchwise.Proofs.Element.Quoting
import Batchwise.Proofs.Pass.Independence
import Batchwise.Proofs.Variable.Decomposition
import Batchwise.Proofs.Variable.Store

namespace Batchwise

/-! A value on its way through a script: it is written into an assignment, read from there
into the store, and put in the place of a reference behind the assignment. Nothing of it is
lost and nothing of it is read as script. -/

def assignmentKeyword : List Char :=
  [':', 'S', 'E', 'T', 'V', 'A', 'R']

def assignmentTo (name : List Char) : List Char :=
  assignmentKeyword ++ ' ' :: (name ++ [' '])

def quotedAssignment (name value : List Char) : List Char :=
  assignmentTo name ++ enclose .double value ++ '\n' :: referenceTo name

def plainAssignment (name value : List Char) : List Char :=
  assignmentTo name ++ value ++ '\n' :: referenceTo name

example : plainAssignment ['d', 'b'] ['x'] = ":SETVAR db x\n$(db)".toList := rfl

theorem assignmentTo_append (name text : List Char) :
    assignmentTo name ++ text = assignmentKeyword ++ ' ' :: (name ++ ' ' :: text) := by
  rw [assignmentTo, List.append_assoc, List.cons_append, List.append_assoc]
  rfl

theorem assignmentTo_ne_nil (name : List Char) : assignmentTo name ≠ [] :=
  List.append_ne_nil_of_left_ne_nil (by decide) _

/-- A name that can be written into an assignment and into a reference. -/
structure IsAssignable (name : List Char) : Prop where
  isWord : IsWord name
  inert : IsInert name
  noParenthesis : ')' ∉ name

theorem after_line {body : List Char} (unbroken : Unbroken body) :
    Position.start.after (body ++ ['\n']) = ⟨2, 1⟩ := by
  have none : body.count '\n' = 0 :=
    List.count_eq_zero_of_not_mem fun member => (unbroken _ member).2 rfl
  rw [Position.after_of_lineFeed List.getLast?_concat, List.count_append, none]
  rfl

section Name

variable {name : List Char} (isAssignable : IsAssignable name)

include isAssignable

theorem IsAssignable.isName : IsName name :=
  ⟨isAssignable.isWord.nonempty, isAssignable.noParenthesis⟩

theorem IsAssignable.isWord_referenceTo : IsWord (referenceTo name) := by
  constructor
  · exact List.cons_ne_nil _ _
  · intro character member
    simp only [referenceTo, List.cons_append, List.mem_cons, List.mem_append,
      List.not_mem_nil, or_false] at member
    rcases member with rfl | rfl | inName | rfl
    · decide
    · decide
    · exact isAssignable.isWord.visible character inName
    · decide

/-! ## The elements of the script -/

theorem isPlain_assignmentTo {text rest : List Char} (plain : IsPlain text rest) :
    IsPlain (assignmentTo name ++ text) rest := by
  have behind := plain.parted (by decide : isNeutral ' ' = true) isAssignable.inert
  have whole := behind.parted (by decide : isNeutral ' ' = true)
    (by decide : IsInert assignmentKeyword)
  rw [assignmentTo_append]
  exact whole

theorem isPlain_referenceTo : IsPlain (referenceTo name) [] := by
  have behind := (isPlain_nil []).parted (by decide : isNeutral ')' = true) isAssignable.inert
  exact behind.parted (by decide : isNeutral '(' = true) (by decide : IsInert ['$'])

theorem unbroken_assignmentTo : Unbroken (assignmentTo name) := by
  have unbroken := isAssignable.isWord.unbroken
  have blank : Unbroken [' '] := by decide
  apply unbroken_append.mpr
  constructor
  · decide
  · apply unbroken_cons.mpr
    constructor
    · decide
    · exact unbroken_append.mpr ⟨unbroken, blank⟩

theorem tokenizes_referenceTo (position : Position) :
    Tokenizes [⟨.text, referenceTo name, position, .endOfScript⟩] (referenceTo name) := by
  have isText : IsText .endOfScript (referenceTo name) [] := by
    apply And.intro (isPlain_referenceTo isAssignable)
    apply Exists.intro (referenceTo name)
    apply Exists.intro []
    exact ⟨(List.append_nil _).symm, isAssignable.isWord_referenceTo.unbroken, .endOfScript⟩
  apply tokenizes_cons_iff.mpr
  exact ⟨[], (List.append_nil _).symm, List.cons_ne_nil _ _, isText, tokenizes_nil_iff.mpr rfl⟩

theorem elements_quotedAssignment (value : List Char) :
    ∃ second third fourth : Position,
      (Cursor.ofScript (quotedAssignment name value)).elements =
        ⟨[⟨.text, assignmentTo name, .start, .before (.literal .double)⟩,
          .quoting .double value second, ⟨.text, ['\n'], third, .endOfLine⟩,
          ⟨.text, referenceTo name, fourth, .endOfScript⟩], none⟩ := by
  have front : IsText (.before (.literal .double)) (assignmentTo name)
      (enclose .double value ++ '\n' :: referenceTo name) := by
    have plain := isPlain_assignmentTo isAssignable
      (isPlain_nil (enclose .double value ++ '\n' :: referenceTo name))
    rw [List.append_nil] at plain
    apply And.intro plain
    apply Exists.intro (assignmentTo name)
    apply Exists.intro []
    exact ⟨(List.append_nil _).symm, unbroken_assignmentTo isAssignable,
      .before (.literal .double _)⟩
  have lineFeed : IsText .endOfLine ['\n'] (referenceTo name) :=
    ⟨(Terminator.lineFeed _).isPlain, [], ['\n'], rfl, unbroken_nil, .endOfLine (.lineFeed _)⟩
  have tokenizes : Tokenizes
      [⟨.text, assignmentTo name, .start, .before (.literal .double)⟩,
        .quoting .double value .start, ⟨.text, ['\n'], .start, .endOfLine⟩,
        ⟨.text, referenceTo name, .start, .endOfScript⟩] (quotedAssignment name value) := by
    apply tokenizes_cons_iff.mpr
    refine ⟨_, List.append_assoc _ _ _, assignmentTo_ne_nil name, front, ?_⟩
    apply tokenizes_cons_iff.mpr
    refine ⟨_, rfl, List.cons_ne_nil _ _, Element.fits_quoting .double value .start ?_, ?_⟩
    · simp [Quote.closer, Quote.closing, Quote.opener]
    apply tokenizes_cons_iff.mpr
    exact ⟨_, rfl, List.cons_ne_nil _ _, lineFeed, tokenizes_referenceTo isAssignable .start⟩
  exact ⟨_, _, _, tokenizes.elements_eq⟩

theorem elements_plainAssignment {value : List Char} (isWord : IsWord value)
    (inert : IsInert value) :
    (Cursor.ofScript (plainAssignment name value)).elements =
      ⟨[⟨.text, assignmentTo name ++ value ++ ['\n'], .start, .endOfLine⟩,
        ⟨.text, referenceTo name, ⟨2, 1⟩, .endOfScript⟩], none⟩ := by
  have unbroken : Unbroken (assignmentTo name ++ value) :=
    unbroken_append.mpr ⟨unbroken_assignmentTo isAssignable, isWord.unbroken⟩
  have line : IsText .endOfLine (assignmentTo name ++ value ++ ['\n']) (referenceTo name) := by
    have plain := (isPlain_nil (referenceTo name)).parted
      (by decide : isNeutral '\n' = true) inert
    constructor
    · rw [List.append_assoc]
      exact isPlain_assignmentTo isAssignable plain
    · apply Exists.intro (assignmentTo name ++ value)
      apply Exists.intro ['\n']
      apply And.intro rfl
      exact ⟨unbroken, .endOfLine (.lineFeed _)⟩
  apply Cursor.elements_eq_iff.mpr
  constructor
  · apply tokenizes_cons_iff.mpr
    exact ⟨_, (List.append_assoc _ ['\n'] _).symm, List.concat_ne_nil _ _, line,
      tokenizes_referenceTo isAssignable _⟩
  · apply placed_cons_iff.mpr
    apply And.intro rfl
    apply placed_cons_iff.mpr
    exact ⟨(after_line unbroken).symm, placed_nil _⟩

/-! ## What the pass reads -/

theorem words_assignmentTo (text : List Char) :
    words (assignmentTo name ++ text) = assignmentKeyword :: name :: words text := by
  have command : IsWord assignmentKeyword := by decide
  have blank : isBlank ' ' = true := by decide
  have behindName : (' ' :: text).head?.all isBlank = true := blank
  have behindKeyword : (' ' :: (name ++ ' ' :: text)).head?.all isBlank = true := blank
  rw [assignmentTo_append, words_append command behindKeyword, words_of_blank blank,
    words_append isAssignable.isWord behindName, words_of_blank blank]

end Name

theorem Line.read_assignment {element : Element} {operands : List (List Char)}
    (isText : element.kind = .text)
    (split : words element.text = assignmentKeyword :: operands) :
    Line.read true element = readDirective assignmentKeyword operands element.ending := by
  rw [Line.read, isText]
  dsimp only
  rw [split]
  rfl

section Pass

variable {name : List Char} (isAssignable : IsAssignable name)

include isAssignable

theorem read_referenceTo (scripting : Bool) (position : Position) :
    Line.read scripting ⟨.text, referenceTo name, position, .endOfScript⟩ = .ok .content := by
  have split : words (referenceTo name) = [referenceTo name] := by
    have word := @words_append _ isAssignable.isWord_referenceTo [] rfl
    rwa [List.append_nil] at word
  rw [Line.read]
  dsimp only
  rw [split]
  cases scripting <;> rfl

theorem Context.get?_assigned {context : Context} (free : context.store.isFree name = true)
    (value : List Char) : (context.assign name value).store.get? name = some value := by
  rw [Store.get?, Context.assign, Store.find?_assign _ isAssignable.isWord, if_pos ⟨rfl, free⟩]
  rfl

theorem Context.expand_assigned {context : Context}
    (scripting : context.mode.isScripting = true) (free : context.store.isFree name = true)
    (value : List Char) :
    (context.assign name value).expand (referenceTo name) = value := by
  have found := get?_assigned isAssignable free value
  have whole := expand_referenceTo (context.assign name value).store.get? isAssignable.isName []
  rw [List.append_nil, expand_nil, List.append_nil, replacement, found] at whole
  rw [Context.expand]
  exact (if_pos scripting).trans whole

namespace Pass

theorem parse_referenceTo (progress : Progress) (position : Position) :
    parse ⟨[⟨.text, referenceTo name, position, .endOfScript⟩], none, progress⟩ =
      ⟨[⟨(progress.append ⟨.text, referenceTo name, position, .endOfScript⟩).close 1,
        progress.context.continueOnError⟩], none, progress.context⟩ := by
  have read := read_referenceTo isAssignable progress.context.mode.isScripting position
  have taken : step progress ⟨.text, referenceTo name, position, .endOfScript⟩ [] =
      .ok ⟨none, progress.append ⟨.text, referenceTo name, position, .endOfScript⟩, []⟩ := by
    rw [step, read]
  rw [parse_of_step none taken, parse_nil]
  rfl

section Steps

variable {progress : Progress} (scripting : progress.context.mode.isScripting = true)
  (value : List Char) (position : Position) (rest : List Element)

include scripting

theorem step_quotedAssignment (place : Position) :
    step progress ⟨.text, assignmentTo name, position, .before (.literal .double)⟩
        (.quoting .double value place :: rest) =
      .ok ⟨none, progress.assign name value, rest⟩ := by
  have split : words (assignmentTo name) = [assignmentKeyword, name] := by
    have behind := words_assignmentTo isAssignable []
    rwa [List.append_nil] at behind
  have read : Line.read true
      ⟨.text, assignmentTo name, position, .before (.literal .double)⟩ =
      .ok (.assignLiteral name) := by
    rw [Line.read_assignment rfl split]
    rfl
  have isDouble : (Element.quoting .double value place).kind = .literal .double := rfl
  rw [step, scripting, read]
  dsimp only
  rw [if_pos isDouble, Element.content_quoting]
  rfl

theorem step_plainAssignment (isWord : IsWord value) :
    step progress ⟨.text, assignmentTo name ++ value ++ ['\n'], position, .endOfLine⟩ rest =
      .ok ⟨none, progress.assign name value, rest⟩ := by
  have split : words (assignmentTo name ++ value ++ ['\n']) =
      [assignmentKeyword, name, value] := by
    have blank : isBlank '\n' = true := by decide
    have ends : ['\n'].head?.all isBlank = true := blank
    rw [List.append_assoc, words_assignmentTo isAssignable, words_append isWord ends,
      words_of_blank blank]
    rfl
  have read : Line.read true
      ⟨.text, assignmentTo name ++ value ++ ['\n'], position, .endOfLine⟩ =
      .ok (.assign name value) := by
    rw [Line.read_assignment rfl split]
    rfl
  rw [step, scripting, read]

end Steps

end Pass

/-! ## Round trips -/

variable {context : Context} (scripting : context.mode.isScripting = true)
  (free : context.store.isFree name = true)

include scripting free

theorem parse_quotedAssignment (value : List Char) :
    ∃ batch : Batch,
      (Pass.ofScript (quotedAssignment name value) context).parse =
        ⟨[⟨batch, context.continueOnError⟩], none, context.assign name value⟩ ∧
      batch.text = '\n' :: value ∧ batch.count = 1 := by
  have expands := Context.expand_assigned isAssignable scripting free value
  have lineFeed : (context.assign name value).expand ['\n'] = ['\n'] :=
    Context.expand_of_no_opening _ (by decide)
  have content (progress : Progress) (position : Position) (rest : List Element) :
      Pass.step progress ⟨.text, ['\n'], position, .endOfLine⟩ rest =
        .ok ⟨none, progress.append ⟨.text, ['\n'], position, .endOfLine⟩, rest⟩ := by
    have read : Line.read progress.context.mode.isScripting
        ⟨.text, ['\n'], position, .endOfLine⟩ = .ok .content := rfl
    rw [Pass.step, read]
  rcases elements_quotedAssignment isAssignable value with ⟨second, third, fourth, scanned⟩
  rw [Pass.ofScript, scanned]
  dsimp only
  rw [Pass.parse_of_step none (Pass.step_quotedAssignment isAssignable scripting value _ _ _),
    Pass.parse_of_step none (content _ _ _), Pass.parse_referenceTo isAssignable]
  apply Exists.intro _
  apply And.intro rfl
  constructor
  · change (context.assign name value).expand ['\n'] ++
      ((context.assign name value).expand (referenceTo name) ++ []) = _
    rw [lineFeed, expands, List.append_nil]
    rfl
  · rfl

theorem parse_plainAssignment {value : List Char} (isWord : IsWord value)
    (inert : IsInert value) :
    ∃ batch : Batch,
      (Pass.ofScript (plainAssignment name value) context).parse =
        ⟨[⟨batch, context.continueOnError⟩], none, context.assign name value⟩ ∧
      batch.text = value ∧ batch.start = ⟨2, 1⟩ ∧ batch.count = 1 := by
  have expands := Context.expand_assigned isAssignable scripting free value
  rw [Pass.ofScript, elements_plainAssignment isAssignable isWord inert]
  dsimp only
  rw [Pass.parse_of_step none (Pass.step_plainAssignment isAssignable scripting value _ _ isWord),
    Pass.parse_referenceTo isAssignable]
  apply Exists.intro _
  apply And.intro rfl
  constructor
  · change (context.assign name value).expand (referenceTo name) ++ [] = _
    rw [expands, List.append_nil]
  · exact ⟨rfl, rfl⟩

end Pass

/-- A value in double quotes comes out of the script as it went in, whatever it holds: line
breaks, separators, quotes, openings of comments and references. The one batch is the line
break behind the assignment and then the value. A value that is an inert word needs no
quotes, and the batch is the value alone. -/
theorem values_survive_assignment {context : Context} {name : List Char}
    (scripting : context.mode.isScripting = true) (isAssignable : IsAssignable name)
    (free : context.store.isFree name = true) :
    (∀ value : List Char, ∃ batch : Batch,
      (Pass.ofScript (quotedAssignment name value) context).parse =
          ⟨[⟨batch, context.continueOnError⟩], none, context.assign name value⟩ ∧
        batch.text = '\n' :: value ∧ batch.count = 1 ∧
        (context.assign name value).store.get? name = some value) ∧
      ∀ value : List Char, IsWord value → IsInert value → ∃ batch : Batch,
        (Pass.ofScript (plainAssignment name value) context).parse =
            ⟨[⟨batch, context.continueOnError⟩], none, context.assign name value⟩ ∧
          batch.text = value ∧ batch.start = ⟨2, 1⟩ ∧ batch.count = 1 ∧
          (context.assign name value).store.get? name = some value := by
  constructor
  · intro value
    rcases parse_quotedAssignment isAssignable scripting free value with
      ⟨batch, read, text, count⟩
    exact ⟨batch, read, text, count, Context.get?_assigned isAssignable free value⟩
  · intro value isWord inert
    rcases parse_plainAssignment isAssignable scripting free isWord inert with
      ⟨batch, read, text, start, count⟩
    exact ⟨batch, read, text, start, count, Context.get?_assigned isAssignable free value⟩

/-- The name looks like the opening of a reference, and the value holds a separator, an
open comment and the reference itself. The value without quotes holds a reference to a
variable that is defined. -/
theorem values_survive_assignment_of_hostile_values :
    let context := Context.ofOptions ⟨.sqlcmdEx, .ofList [(['b'], ['1'])], false⟩
    let name := ['a', '/', '$', '(', '-']
    let quoted := ":SETVAR a/$(- \"it\"\"s\nGO 2\n$(a/$(-) /*\"\n$(a/$(-)".toList
    let plain := ":SETVAR a/$(- */$(b)\n$(a/$(-)".toList
    context.mode.isScripting = true ∧ IsAssignable name ∧ context.store.isFree name = true ∧
      (∃ batch : Batch, (Pass.ofScript quoted context).parse.batches = [batch] ∧
        batch.text = "\nit\"s\nGO 2\n$(a/$(-) /*".toList) ∧
      ∃ batch : Batch, (Pass.ofScript plain context).parse.batches = [batch] ∧
        batch.text = ['*', '/', '$', '(', 'b', ')'] ∧ batch.start = ⟨2, 1⟩ := by
  intro context name quoted plain
  have scripting : context.mode.isScripting = true := rfl
  have isAssignable : IsAssignable name := ⟨by decide, by decide, by decide⟩
  have free : context.store.isFree name = true := by decide +kernel
  have survives := values_survive_assignment scripting isAssignable free
  refine ⟨scripting, isAssignable, free, ?_, ?_⟩
  · rcases survives.1 "it\"s\nGO 2\n$(a/$(-) /*".toList with ⟨batch, read, text, -⟩
    have written : quoted = quotedAssignment name "it\"s\nGO 2\n$(a/$(-) /*".toList := by
      decide +kernel
    apply Exists.intro batch
    constructor
    · rw [written, read]
      rfl
    · rw [text]
      decide +kernel
  · rcases survives.2 ['*', '/', '$', '(', 'b', ')'] (by decide) (by decide) with
      ⟨batch, read, text, start, -⟩
    have written : plain = plainAssignment name ['*', '/', '$', '(', 'b', ')'] := by
      decide +kernel
    apply Exists.intro batch
    constructor
    · rw [written, read]
      rfl
    · exact ⟨text, start⟩

end Batchwise
