namespace Batchwise

/-! Floating-point values of two precisions, with exact arithmetic. A number is
rounded to the nearest value `significand * 2 ^ exponent`, and an exact tie goes
to the even significand. -/

structure Fraction where
  numerator : Nat
  denominator : Nat
  deriving DecidableEq, Repr

namespace Fraction

def scaleDown (fraction : Fraction) (base : Nat) (exponent : Int) : Fraction :=
  if 0 ≤ exponent then
    ⟨fraction.numerator, fraction.denominator * base.pow exponent.toNat⟩
  else ⟨fraction.numerator * base.pow (-exponent).toNat, fraction.denominator⟩

def floor (fraction : Fraction) : Nat :=
  fraction.numerator / fraction.denominator

def round (fraction : Fraction) : Nat :=
  let whole := fraction.floor
  let twice := 2 * (fraction.numerator % fraction.denominator)
  if twice < fraction.denominator then whole
  else if fraction.denominator < twice then whole + 1
  else whole + whole % 2

def le (first second : Fraction) : Bool :=
  first.numerator * second.denominator ≤ second.numerator * first.denominator

def lt (first second : Fraction) : Bool :=
  first.numerator * second.denominator < second.numerator * first.denominator

def times (first second : Fraction) : Fraction :=
  ⟨first.numerator * second.numerator, first.denominator * second.denominator⟩

def distance (first second : Fraction) : Fraction :=
  let left := first.numerator * second.denominator
  let right := second.numerator * first.denominator
  ⟨max left right - min left right, first.denominator * second.denominator⟩

end Fraction

structure Precision where
  bits : Nat
  leastExponent : Int
  deriving DecidableEq, Repr

def Precision.double : Precision := ⟨53, -1074⟩

def Precision.extended : Precision := ⟨64, -16445⟩

def Precision.leastSignificand (precision : Precision) : Nat :=
  Nat.pow 2 (precision.bits - 1)

structure Binary where
  significand : Nat
  exponent : Int
  deriving DecidableEq, Repr

namespace Binary

def nearest (precision : Precision) (fraction : Fraction) : Binary :=
  let guess : Int :=
    (fraction.numerator.log2 : Int) - fraction.denominator.log2 - (precision.bits - 1 : Nat)
  let least := precision.leastSignificand
  let normal := if (fraction.scaleDown 2 guess).floor < least then guess - 1 else guess
  let exponent := max normal precision.leastExponent
  let significand := (fraction.scaleDown 2 exponent).round
  if significand = 2 * least then ⟨least, exponent + 1⟩ else ⟨significand, exponent⟩

def toFraction (value : Binary) : Fraction :=
  Fraction.scaleDown ⟨value.significand, 1⟩ 2 (-value.exponent)

def times (precision : Precision) (first second : Binary) : Binary :=
  nearest precision (first.toFraction.times second.toFraction)

def whole? (value : Binary) : Option Nat :=
  let fraction := value.toFraction
  if fraction.numerator % fraction.denominator = 0 then some fraction.floor else none

/-- One tenth is no sum of powers of two. -/
example : nearest .double ⟨1, 10⟩ = ⟨7205759403792794, -56⟩ := by decide +kernel

end Binary

end Batchwise
