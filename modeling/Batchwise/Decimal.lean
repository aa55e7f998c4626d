import Batchwise.Binary

namespace Batchwise

/-! Floating-point values of 64 bits as decimals. A value is written with the
fewest digits that still lead back to it; of several such decimals the nearest
is taken. -/

structure Decimal where
  negative : Bool
  digits : Nat
  exponent : Int
  deriving DecidableEq, Repr

namespace Binary

/-- The numbers that round to the value lie between these two bounds. They
belong to it themselves when the significand is even. -/
def lowerBound (value : Binary) : Fraction :=
  let isLeast := value.significand = Precision.double.leastSignificand
  let gap := if isLeast && value.exponent ≠ -1074 then 1 else 2
  Fraction.scaleDown ⟨4 * value.significand - gap, 4⟩ 2 (-value.exponent)

def upperBound (value : Binary) : Fraction :=
  Fraction.scaleDown ⟨4 * value.significand + 2, 4⟩ 2 (-value.exponent)

def covers (value : Binary) (fraction : Fraction) : Bool :=
  if value.significand % 2 = 0 then
    value.lowerBound.le fraction && fraction.le value.upperBound
  else value.lowerBound.lt fraction && fraction.lt value.upperBound

def decimalExponent (fraction : Fraction) : Nat → Int → Int
  | 0, guess => guess
  | steps + 1, guess =>
    if (fraction.scaleDown 10 (guess + 1)).floor = 0 then guess
    else decimalExponent fraction steps (guess + 1)

/-- Of the two neighbours of the value on the grid of `10 ^ exponent`, the
nearer one that leads back to the value. -/
def onGrid (value : Binary) (exponent : Int) : Option Nat :=
  let exact := value.toFraction
  let below := (exact.scaleDown 10 exponent).floor
  let at_ (digits : Nat) : Fraction := Fraction.scaleDown ⟨digits, 1⟩ 10 (-exponent)
  let fits (digits : Nat) : Bool := value.covers (at_ digits)
  match fits below, fits (below + 1) with
  | true, true =>
    if ((at_ (below + 1)).distance exact).lt ((at_ below).distance exact) then some (below + 1)
    else some below
  | true, false => some below
  | false, true => some (below + 1)
  | false, false => none

def shortestFrom (value : Binary) : Nat → Int → Nat × Int
  | 0, exponent => (((value.toFraction).scaleDown 10 exponent).floor, exponent)
  | grids + 1, exponent =>
    match value.onGrid exponent with
    | some digits => (digits, exponent)
    | none => shortestFrom value grids (exponent - 1)

def shortest (value : Binary) : Nat × Int :=
  let exact := value.toFraction
  let bits : Int := (exact.numerator.log2 : Int) - exact.denominator.log2 - 1
  let guess := bits * 30103 / 100000 - 1
  shortestFrom value 17 (decimalExponent exact 8 guess)

end Binary

namespace Decimal

def trimZeros : Nat → Nat → Int → Nat × Int
  | 0, digits, exponent => (digits, exponent)
  | steps + 1, digits, exponent =>
    if digits ≠ 0 && digits % 10 = 0 then trimZeros steps (digits / 10) (exponent + 1)
    else (digits, exponent)

def ofBinary (negative : Bool) (value : Binary) : Decimal :=
  if value.significand = 0 then ⟨negative, 0, 0⟩
  else
    let (digits, exponent) := value.shortest
    let (digits, exponent) := trimZeros 20 digits exponent
    ⟨negative, digits, exponent⟩

def toBinary (decimal : Decimal) : Binary :=
  .nearest .double (Fraction.scaleDown ⟨decimal.digits, 1⟩ 10 (-decimal.exponent))

/-- Positional notation while the point lies within sixteen digits of the first
one or at most five places before it, scientific notation outside. A number in
positional notation has at least one place behind its point. -/
def render (decimal : Decimal) : String :=
  let sign := if decimal.negative then "-" else ""
  let digits := toString decimal.digits
  let point : Int := digits.length + decimal.exponent
  let zeros (count : Int) : String := String.ofList (List.replicate count.toNat '0')
  if decimal.digits = 0 then sign ++ "0.0"
  else if 0 ≤ decimal.exponent && point ≤ 16 then
    sign ++ digits ++ zeros decimal.exponent ++ ".0"
  else if 0 < point && point ≤ 16 then
    sign ++ String.ofList (digits.toList.take point.toNat) ++ "."
      ++ String.ofList (digits.toList.drop point.toNat)
  else if -5 < point && point ≤ 0 then sign ++ "0." ++ zeros (-point) ++ digits
  else
    let fraction := String.ofList (digits.toList.drop 1)
    sign ++ String.ofList (digits.toList.take 1)
      ++ (if fraction.isEmpty then "" else "." ++ fraction)
      ++ (if 0 < point then "e+" else "e") ++ toString (point - 1)

end Decimal

end Batchwise
