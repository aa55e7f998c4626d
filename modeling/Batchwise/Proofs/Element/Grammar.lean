import Batchwise.Element.Scan
import Mathlib.Data.List.Basic

namespace Batchwise

/-! The lexical grammar of a script, told without a reader. Each form below is a
property of a text together with the script that follows it. -/

/-- An element that is not plain text starts right here. -/
inductive Starts : ElementKind → List Char → Prop
  | literal (quote : Quote) (rest : List Char) :
      Starts (.literal quote) (quote.opener :: rest)
  | lineComment (rest : List Char) : Starts .lineComment ('-' :: '-' :: rest)
  | blockComment (rest : List Char) : Starts .blockComment ('/' :: '*' :: rest)

/-- A line terminator. A carriage return is one only when no line feed follows. -/
inductive Terminator : List Char → List Char → Prop
  | pair (rest : List Char) : Terminator ['\r', '\n'] rest
  | lineFeed (rest : List Char) : Terminator ['\n'] rest
  | carriageReturn (rest : List Char) (alone : rest.head? ≠ some '\n') :
      Terminator ['\r'] rest

def Unbroken (text : List Char) : Prop :=
  ∀ character ∈ text, character ≠ '\r' ∧ character ≠ '\n'

instance (text : List Char) : Decidable (Unbroken text) :=
  List.decidableBAll _ text

def EndsLine (text rest : List Char) : Prop :=
  ∃ body ending, text = body ++ ending ∧ Unbroken body ∧
    (Terminator ending rest ∨ ending = [] ∧ rest = [])

def IsLineComment (text rest : List Char) : Prop :=
  ∃ body, text = '-' :: '-' :: body ∧ EndsLine body rest

/-- The number of block comments that are open behind a text when `depth` are
open in front of it. Delimiters are read from the left and share no character. -/
def nesting (depth : Int) : List Char → Int
  | [] => depth
  | '*' :: '/' :: rest => nesting (depth - 1) rest
  | '/' :: '*' :: rest => nesting (depth + 1) rest
  | _ :: rest => nesting depth rest

/-- The slash that ends an opening delimiter begins no other one. -/
example : nesting 1 ['/', '*', '/'] = 2 := by decide

def ClosedAt (depth : Int) (script text : List Char) : Prop :=
  text <+: script ∧ nesting depth text = 0

/-- The text is the shortest front of the remaining script that leaves no comment
open. -/
def Closes (depth : Int) (text rest : List Char) : Prop :=
  ClosedAt depth (text ++ rest) text ∧
    ∀ other, ClosedAt depth (text ++ rest) other → text.length ≤ other.length

def IsBlockComment (text rest : List Char) : Prop :=
  ∃ body, text = '/' :: '*' :: body ∧ Closes 1 body rest

def double (closer : Char) (text : List Char) : List Char :=
  text.flatMap fun character =>
    if character = closer then [character, character] else [character]

def Delimits (closer : Char) (text rest : List Char) : Prop :=
  (∃ body, text = double closer body ++ [closer]) ∧ rest.head? ≠ some closer

def IsLiteral (quote : Quote) (text rest : List Char) : Prop :=
  ∃ body, text = quote.opener :: body ∧ Delimits quote.closer body rest

inductive StopsAt : Ending → List Char → List Char → Prop
  | endOfLine {terminator rest : List Char} (terminates : Terminator terminator rest) :
      StopsAt .endOfLine terminator rest
  | endOfScript : StopsAt .endOfScript [] []
  | before {kind : ElementKind} {rest : List Char} (starts : Starts kind rest) :
      StopsAt (.before kind) [] rest

def IsPlain (text rest : List Char) : Prop :=
  ∀ first second, text = first ++ second → second ≠ [] →
    ∀ kind, ¬ Starts kind (second ++ rest)

def IsText (ending : Ending) (text rest : List Char) : Prop :=
  IsPlain text rest ∧
    ∃ body terminator, text = body ++ terminator ∧ Unbroken body ∧
      StopsAt ending terminator rest

def Element.Fits (element : Element) (rest : List Char) : Prop :=
  match element.kind with
  | .text => IsText element.ending element.text rest
  | .lineComment => element.ending = .none ∧ IsLineComment element.text rest
  | .blockComment => element.ending = .none ∧ IsBlockComment element.text rest
  | .literal quote => element.ending = .none ∧ IsLiteral quote element.text rest

def sourceOf (elements : List Element) : List Char :=
  elements.flatMap (·.text)

@[simp] theorem sourceOf_nil : sourceOf [] = [] := rfl

@[simp] theorem sourceOf_cons (element : Element) (elements : List Element) :
    sourceOf (element :: elements) = element.text ++ sourceOf elements := rfl

/-- The elements make up the script, and each of them has the form of its kind in
front of the ones that follow. -/
structure Tokenizes (elements : List Element) (script : List Char) : Prop where
  source : sourceOf elements = script
  nonempty : ∀ element ∈ elements, element.text ≠ []
  fits : ∀ preceding element following, elements = preceding ++ element :: following →
    element.Fits (sourceOf following)

def Placed (start : Position) (elements : List Element) : Prop :=
  ∀ preceding element following, elements = preceding ++ element :: following →
    element.position = start.after (sourceOf preceding)

def Element.lexeme (element : Element) : ElementKind × List Char × Ending :=
  (element.kind, element.text, element.ending)

end Batchwise
