import Batchwise.Database
import Batchwise.Memory.Token

namespace Batchwise.Memory

/-! Numbers as the database reads and writes them. Real numbers are scaled by
powers of ten in extended precision, one rounded multiplication after the other,
and therefore need not come out as the nearest value. -/

/-! The significand is read from the first digits, as many as keep it within 64
bits. -/

def readSignificand (value : Nat) : List Char → Nat × List Char
  | [] => (value, [])
  | digit :: rest =>
    if value < 1844674407370955160 then readSignificand (10 * value + digitValue digit) rest
    else (value, digit :: rest)

/-- Multiply by ten up to so many times, while the significand has room. The
number of multiplications that remain comes second. -/
def fillSignificand : Nat → Nat → Nat × Nat
  | 0, value => (value, 0)
  | times + 1, value =>
    if value < 1844674407370955161 then fillSignificand times (10 * value)
    else (value, times + 1)

def powerOfTen (exponent : Int) : Binary :=
  .nearest .extended (Fraction.scaleDown ⟨1, 1⟩ 10 (-exponent))

def multiply (value : Binary) (factor : Int) : Binary :=
  value.times .extended (powerOfTen factor)

def scale (value : Binary) (exponent : Int) : Binary :=
  let sign := exponent.sign
  let count := exponent.natAbs
  let steps (size number : Nat) : List Int := List.replicate number (sign * size)
  (steps 100 (count / 100) ++ steps 10 (count % 100 / 10) ++ steps 1 (count % 10)).foldl
    multiply value

def scaleWhole (value : Nat) (exponent : Int) : Binary :=
  let (value, exponent) : Nat × Int :=
    if 0 ≤ exponent then
      let (value, remaining) := fillSignificand exponent.toNat value
      (value, remaining)
    else Decimal.trimZeros exponent.natAbs value exponent
  let exact : Fraction := ⟨value, 1⟩
  if exponent = 0 then .nearest .double exact
  else .nearest .double (scale (.nearest .extended exact) exponent).toFraction

def readExponent : List Char → Int
  | _ :: '-' :: digits => -(numberOf digits : Int)
  | _ :: '+' :: digits => numberOf digits
  | _ :: digits => numberOf digits
  | [] => 0

def isFinite (value : Decimal) : Bool :=
  value.exponent < 309
    && value.digits * Nat.pow 10 value.exponent.toNat ≤ 17976931348623157 * Nat.pow 10 292

/-- The real number with these digits. Zero has no sign, and a number far out of
range needs no scaling. -/
def readReal (negative : Bool) (digits : List Char) (exponent : Int) : Decimal :=
  let (value, unread) := readSignificand 0 digits
  let exponent := exponent + unread.length
  let point := (toString value).length + exponent
  if value = 0 || point < -400 then ⟨false, 0, 0⟩
  else if 400 < point then ⟨negative, 1, 400⟩
  else
    let read := Decimal.ofBinary negative (scaleWhole value exponent)
    if read.digits = 0 then ⟨false, 0, 0⟩ else read

def isInteger (value : Int) : Bool :=
  -9223372036854775808 ≤ value && value ≤ 9223372036854775807

/-- A number is whole when it is written without point and exponent and fits
into 64 bits. -/
def readDecimal (negative : Bool) (written : List Char) : Cell :=
  let whole := digits written
  let rest := written.drop whole.length
  let fraction := digits (if rest.head? = some '.' then rest.drop 1 else [])
  let exponent := readExponent (rest.dropWhile fun character =>
    character = '.' || character.isDigit)
  let value : Int := if negative then -(numberOf whole : Int) else numberOf whole
  if rest.isEmpty && isInteger value then .integer value
  else .real (readReal negative (whole ++ fraction) (exponent - fraction.length))

def readCell (negative : Bool) (written : List Char) : Cell :=
  match hexDigits? written with
  | none => readDecimal negative written
  | some digits =>
    let value : Int := Int.bmod (hexNumberOf digits) 18446744073709551616
    .integer (if negative then -value else value)

def isOversized (negative : Bool) (written : List Char) : Bool :=
  match (hexDigits? written).map hexNumberOf with
  | none => false
  | some value => 18446744073709551616 ≤ value || (negative && value = 9223372036854775808)

/-! Written with fifteen digits, a real number is first brought to eighteen or
nineteen digits before its point. What is behind the point is dropped, and the
rest is rounded half up. -/

/-- Multiply by a power of ten while a test holds. The exponents of the powers
are taken off the second value. -/
def multiplyWhile (test : Binary → Bool) (factor : Int) : Nat → Binary × Int → Binary × Int
  | 0, state => state
  | limit + 1, (value, exponent) =>
    if test value then
      multiplyWhile test factor limit (multiply value factor, exponent - factor)
    else (value, exponent)

def isBelow (exponent : Int) (value : Binary) : Bool :=
  value.toFraction.lt (powerOfTen exponent).toFraction

def normalize (value : Binary) : Binary × Int :=
  if isBelow 19 value then
    multiplyWhile (isBelow 17) 1 12 <| multiplyWhile (isBelow 7) 10 12
      <| multiplyWhile (isBelow (-97)) 100 4 (value, 0)
  else
    multiplyWhile (!isBelow 19 ·) (-1) 12 <| multiplyWhile (!isBelow 29 ·) (-10) 12
      <| multiplyWhile (!isBelow 119 ·) (-100) 4 (value, 0)

def toFifteenDigits (value : Decimal) : Decimal :=
  if value.digits = 0 then ⟨value.negative, 0, 0⟩
  else
    let (normal, exponent) := normalize (.nearest .extended value.toBinary.toFraction)
    let whole := normal.toFraction.floor
    let excess := (toString whole).length - 15
    let unit := Nat.pow 10 excess
    let (digits, exponent) := Decimal.trimZeros 20 ((whole + unit / 2) / unit) (exponent + excess)
    ⟨value.negative, digits, exponent⟩

/-- A real number as text. The notation is scientific where the first digit is in
the sixteenth place before the point or in the fifth place behind it. -/
def writeReal (value : Decimal) : List Char :=
  let sign := if value.negative then ['-'] else []
  if !isFinite value then sign ++ "Inf".toList
  else
    let rounded := toFifteenDigits value
    let digits := (toString rounded.digits).toList
    let place : Int := digits.length + rounded.exponent - 1
    if -4 ≤ place && place < 15 then rounded.render.toList
    else
      let fraction := if digits.length = 1 then ['0'] else digits.drop 1
      let scale := (toString place.natAbs).toList
      sign ++ digits.take 1 ++ ['.'] ++ fraction ++ ['e', if place < 0 then '-' else '+']
        ++ List.replicate (2 - scale.length) '0' ++ scale

/-- The sixteenth digit is a five, and what is dropped would not count. -/
example : String.ofList (writeReal ⟨false, 2597191742282875, -16⟩) = "0.259719174228287" := by
  decide +kernel

end Batchwise.Memory
