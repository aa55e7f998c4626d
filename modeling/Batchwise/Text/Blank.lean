namespace Batchwise

/-! Blank characters are the twenty-five that the Unicode standard calls white
space. A word is a longest stretch of characters that are not blank. -/

def blankRanges : List (Nat × Nat) := [
  (0x9, 0xD), (0x20, 0x20), (0x85, 0x85), (0xA0, 0xA0), (0x1680, 0x1680),
  (0x2000, 0x200A), (0x2028, 0x2029), (0x202F, 0x202F), (0x205F, 0x205F),
  (0x3000, 0x3000)]

def isBlank (character : Char) : Bool :=
  blankRanges.any fun range => range.1 ≤ character.toNat && character.toNat ≤ range.2

example : (blankRanges.map fun range => range.2 + 1 - range.1).sum = 25 := rfl

def trimStart (text : List Char) : List Char :=
  text.dropWhile isBlank

def trimEnd (text : List Char) : List Char :=
  (trimStart text.reverse).reverse

def trim (text : List Char) : List Char :=
  trimEnd (trimStart text)

def extendFirst (character : Char) : List (List Char) → List (List Char)
  | [] => [[character]]
  | word :: following => (character :: word) :: following

def words : List Char → List (List Char)
  | [] => []
  | character :: rest =>
    if isBlank character then words rest
    else if rest.head?.all isBlank then [character] :: words rest
    else extendFirst character (words rest)

example : words [' ', 'a', 'b', '\t', '\n', 'c'] = [['a', 'b'], ['c']] := by decide

end Batchwise
