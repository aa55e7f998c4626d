namespace Batchwise

/-! A place in a script, counted in characters. Lines are numbered by line
feeds alone: a carriage return is part of its line and takes no column, so both
`"\r\n"` and a lone `"\n"` move to the start of the next line, and a lone
`"\r"` moves nowhere. -/

structure Position where
  line : Nat
  column : Nat
  deriving DecidableEq, Repr

namespace Position

def start : Position := ⟨1, 1⟩

def step (position : Position) (character : Char) : Position :=
  if character = '\n' then ⟨position.line + 1, 1⟩
  else if character = '\r' then position
  else ⟨position.line, position.column + 1⟩

def after (position : Position) (text : List Char) : Position :=
  text.foldl step position

@[simp] theorem after_nil (position : Position) : position.after [] = position := rfl

@[simp] theorem after_cons (position : Position) (character : Char)
    (text : List Char) :
    position.after (character :: text) = (position.step character).after text := rfl

@[simp] theorem after_append (position : Position) (first second : List Char) :
    position.after (first ++ second) = (position.after first).after second :=
  List.foldl_append

/-- Only the line feed of a carriage return pair counts. -/
example : start.after ['a', '\r', '\n', 'b', 'c'] = ⟨2, 3⟩ := rfl

end Position

end Batchwise
