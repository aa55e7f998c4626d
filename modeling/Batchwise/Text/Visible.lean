namespace Batchwise

/-! Text between quotation marks, as a message shows it to a reader. -/

/-- Code points that would not be seen by themselves: controls, blanks, marks of
direction, and signs that are put on the character in front of them. -/
def invisibleRanges : List (Nat × Nat) := [
  (0x0, 0x1F), (0x7F, 0xA0), (0xAD, 0xAD), (0x300, 0x36F), (0x1680, 0x1680),
  (0x2000, 0x200F), (0x2028, 0x202F), (0x205F, 0x206F), (0x20D0, 0x20F0),
  (0x3000, 0x3000), (0xE000, 0xF8FF), (0xFE00, 0xFE0F), (0xFEFF, 0xFEFF),
  (0xFFF0, 0xFFFB), (0xFFFE, 0xFFFF)]

def visibleForm (character : Char) : List Char :=
  match character with
  | '\x00' => ['\\', '0']
  | '\t' => ['\\', 't']
  | '\n' => ['\\', 'n']
  | '\r' => ['\\', 'r']
  | '"' => ['\\', '"']
  | '\\' => ['\\', '\\']
  | character =>
    let code := character.toNat
    if invisibleRanges.any fun range => range.1 ≤ code && code ≤ range.2 then
      "\\u\x7b".toList ++ Nat.toDigits 16 code ++ ['\x7d']
    else [character]

def quote (text : List Char) : List Char :=
  '"' :: text.flatMap visibleForm ++ ['"']

example : String.ofList (quote "a\"\u00a0".toList) = "\"a\\\"\\u\x7ba0\x7d\"" := by
  decide +kernel

end Batchwise
