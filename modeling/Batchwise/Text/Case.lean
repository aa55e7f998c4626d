import Batchwise.Text.CaseTable

namespace Batchwise

/-! Two ways to disregard case. Keywords are compared letter by letter over the
twenty-six letters of ASCII; names are compared by their full lower-case form. -/

def sameKeyword (first second : List Char) : Bool :=
  first.map Char.toLower == second.map Char.toLower

example : sameKeyword ['G', 'o'] ['g', 'O'] = true := rfl

/-! Lower-casing maps each letter by the standard's table. Two letters need
more: `İ` becomes an `i` with a combining dot, and a capital sigma depends on
where it stands, because the last letter of a word has its own small form. -/

def lowercaseLetter (letter : Char) : List Char :=
  if letter = 'İ' then ['i', '\u0307']
  else if letter.toNat < 128 then [letter.toLower]
  else
    match lowercaseRuns.find? (·.contains letter.toNat) with
    | some run => [Char.ofNat (letter.toNat + run.offset).toNat]
    | none => [letter]

def isCaseIgnorable (character : Char) : Bool :=
  inRanges caseIgnorableRanges character.toNat

/-- A cased letter is met before any other character that is not looked past. -/
def meetsCased : List Char → Bool
  | [] => false
  | character :: rest =>
    if isCaseIgnorable character then meetsCased rest
    else inRanges casedRanges character.toNat

/-- Lower-case `text`, where `preceding` are the characters before it, the
nearest first. -/
def lowercaseAfter (preceding : List Char) : List Char → List Char
  | [] => []
  | letter :: rest =>
    let lowered :=
      if letter = 'Σ' then
        if meetsCased preceding && !meetsCased rest then ['ς'] else ['σ']
      else lowercaseLetter letter
    lowered ++ lowercaseAfter (letter :: preceding) rest

def lowercase (text : List Char) : List Char :=
  lowercaseAfter [] text

/-- Only the second sigma ends a word. -/
example : lowercase ['Σ', 'Α', 'Σ', ' ', 'Σ'] = ['σ', 'α', 'ς', ' ', 'σ'] := by
  decide +kernel

end Batchwise
