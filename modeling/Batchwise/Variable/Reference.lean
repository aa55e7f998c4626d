namespace Batchwise

/-! References to variables. A reference is written `$(name)`, where the name
is any non-empty text without a closing parenthesis. -/

def splitAtParenthesis : List Char → Option (List Char × List Char)
  | [] => none
  | ')' :: rest => some ([], rest)
  | character :: rest =>
    (splitAtParenthesis rest).map fun found => (character :: found.1, found.2)

def reference? : List Char → Option (List Char × List Char)
  | '$' :: '(' :: rest =>
    match splitAtParenthesis rest with
    | some ([], _) => none
    | found => found
  | _ => none

theorem splitAtParenthesis_length {text : List Char} {split : List Char × List Char}
    (found : splitAtParenthesis text = some split) : split.2.length < text.length := by
  induction text generalizing split with
  | nil => cases found
  | cons character rest induction =>
      unfold splitAtParenthesis at found
      split at found
      · cases found
      · rename_i equal
        cases equal
        cases found
        exact Nat.lt_succ_self _
      · rename_i equal
        cases equal
        cases inner : splitAtParenthesis rest with
        | none => rw [inner] at found; cases found
        | some parts =>
            rw [inner] at found
            cases found
            exact Nat.lt_succ_of_lt (@induction parts inner)

theorem reference?_length {text : List Char} {split : List Char × List Char}
    (found : reference? text = some split) : split.2.length < text.length := by
  unfold reference? at found
  split at found
  · rename_i rest
    have shorter : split.2.length < rest.length := by
      split at found
      · cases found
      · exact splitAtParenthesis_length found
    simp only [List.length_cons]
    omega
  · cases found

/-! A text falls into references and the characters between them. References
are found from the left and share no characters. -/

inductive Segment where
  | plain (character : Char)
  | reference (name : List Char)
  deriving DecidableEq, Repr

namespace Segment

def ofText (text : List Char) : List Segment :=
  match _found : reference? text with
  | some (name, rest) => .reference name :: ofText rest
  | none =>
    match text with
    | [] => []
    | character :: rest => .plain character :: ofText rest
termination_by text.length
decreasing_by
  · exact reference?_length ‹_›
  · exact Nat.lt_succ_self _

def source : Segment → List Char
  | plain character => [character]
  | reference name => '$' :: '(' :: name ++ [')']

def expand (lookup : List Char → Option (List Char)) : Segment → List Char
  | plain character => [character]
  | reference name => (lookup name).getD (reference name).source

def name? : Segment → Option (List Char)
  | plain _ => none
  | reference name => some name

end Segment

/-- Replace each defined reference by its value. Values are not read again. -/
def expand (lookup : List Char → Option (List Char)) (text : List Char) : List Char :=
  (Segment.ofText text).flatMap (Segment.expand lookup)

def lookups (text : List Char) : List (List Char) :=
  (Segment.ofText text).filterMap Segment.name?

example : lookups ['$', '(', '$', '(', 'a', ')', ')'] = [['$', '(', 'a']] := by
  decide +kernel

end Batchwise
