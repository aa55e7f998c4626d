import Batchwise.Text.Digits

namespace Batchwise.Toml

/-! Dates and times in a TOML document. A value is a date, a time of day, or a
date and a time, which may tell its distance from universal time. It is kept in
its usual written form.

A reader gives what it has read with the text behind it. -/

def readDigits (count least greatest : Nat) (text : List Char) :
    Option (List Char × List Char) :=
  let digits := text.take count
  let isBetween := least ≤ numberOf digits && numberOf digits ≤ greatest
  if digits.length = count && digits.all Char.isDigit && isBetween then
    some (digits, text.drop count)
  else none

def readMark (mark : Char) : List Char → Option (List Char)
  | [] => none
  | character :: rest => if character = mark then some rest else none

def isLeapYear (year : Nat) : Bool :=
  year % 4 = 0 && (year % 100 ≠ 0 || year % 400 = 0)

def daysIn (year month : Nat) : Nat :=
  if month = 2 then if isLeapYear year then 29 else 28
  else if [4, 6, 9, 11].contains month then 30
  else 31

example : daysIn 1900 2 = 28 ∧ daysIn 2000 2 = 29 := by decide

def readDay (text : List Char) : Option (List Char × List Char) := do
  let (year, rest) ← readDigits 4 0 9999 text
  let (month, rest) ← readDigits 2 1 12 (← readMark '-' rest)
  let (day, rest) ← readDigits 2 1 (daysIn (numberOf year) (numberOf month)) (← readMark '-' rest)
  return (year ++ '-' :: month ++ '-' :: day, rest)

/-- The digits behind a point. The first nine count, and zeros at their end do
not. -/
def readFraction (text : List Char) : List Char × List Char :=
  match text with
  | '.' :: rest =>
    let digits := rest.takeWhile Char.isDigit
    let counted := ((digits.take 9).reverse.dropWhile (· = '0')).reverse
    if digits.isEmpty then ([], text)
    else (if counted.isEmpty then [] else '.' :: counted, rest.drop digits.length)
  | _ => ([], text)

/-- A minute may have a leap second. -/
def readTime (text : List Char) : Option (List Char × List Char) := do
  let (hour, rest) ← readDigits 2 0 23 text
  let (minute, rest) ← readDigits 2 0 59 (← readMark ':' rest)
  let (second, rest) ← readDigits 2 0 60 (← readMark ':' rest)
  let (fraction, rest) := readFraction rest
  return (hour ++ ':' :: minute ++ ':' :: second ++ fraction, rest)

/-- The distance from universal time. No distance at all is written with a plus. -/
def readOffset (text : List Char) : Option (List Char × List Char) :=
  match text with
  | 'Z' :: rest | 'z' :: rest => some (['Z'], rest)
  | sign :: rest => do
    if sign ≠ '+' && sign ≠ '-' then none
    let (hour, rest) ← readDigits 2 0 23 rest
    let (minute, rest) ← readDigits 2 0 59 (← readMark ':' rest)
    let isZero := numberOf hour = 0 && numberOf minute = 0
    return ((if isZero then '+' else sign) :: hour ++ ':' :: minute, rest)
  | [] => none

def readTimeOfDay (text : List Char) : Option (List Char × List Char) :=
  match text with
  | 'T' :: rest | 't' :: rest | ' ' :: rest => do
    let (time, rest) ← readTime rest
    let (offset, rest) := (readOffset rest).getD ([], rest)
    return ('T' :: time ++ offset, rest)
  | _ => none

def readDate (text : List Char) : Option (List Char × List Char) :=
  match readDay text with
  | some (day, rest) =>
    let (time, rest) := (readTimeOfDay rest).getD ([], rest)
    some (day ++ time, rest)
  | none => readTime text

example : readDate "1979-05-27 07:32:00.50z # x".toList
    = some ("1979-05-27T07:32:00.5Z".toList, " # x".toList) := by
  decide +kernel

end Batchwise.Toml
