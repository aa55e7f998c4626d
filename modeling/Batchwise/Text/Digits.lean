namespace Batchwise

/-! Digits and the numbers they write. The first digit of a number weighs the
most, so each further digit moves the ones before it up by one place. -/

def digitValue (digit : Char) : Nat :=
  digit.toNat - '0'.toNat

def numberOf (digits : List Char) : Nat :=
  digits.foldl (fun value digit => 10 * value + digitValue digit) 0

example : numberOf ['0', '4', '2'] = 42 := by decide

/-! A hexadecimal digit may be written in either case. -/

def hexValue? (digit : Char) : Option Nat :=
  if '0' ≤ digit && digit ≤ '9' then some (digitValue digit)
  else if 'a' ≤ digit && digit ≤ 'f' then some (digit.toNat - 'a'.toNat + 10)
  else if 'A' ≤ digit && digit ≤ 'F' then some (digit.toNat - 'A'.toNat + 10)
  else none

def isHexDigit (character : Char) : Bool :=
  (hexValue? character).isSome

/-- The value of hexadecimal digits. Any other character counts as a zero. -/
def hexNumberOf (digits : List Char) : Nat :=
  digits.foldl (fun value digit => 16 * value + (hexValue? digit).getD 0) 0

example : hexNumberOf ['1', 'f', 'F'] = 511 := by decide

end Batchwise
