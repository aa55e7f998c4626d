import Batchwise.Text.Bytes
import Batchwise.Text.Split

namespace Batchwise

/-! Hosts in addresses. A host in brackets is an address of eight groups; any
other host is a name, or four numbers where the scheme is one of the web. -/

inductive HostFault where
  | character
  | name
  | fourNumbers
  | eightGroups
  deriving DecidableEq, Repr

def splitDoubleColon : List Char → Option (List Char × List Char)
  | ':' :: ':' :: rest => some ([], rest)
  | character :: rest =>
    (splitDoubleColon rest).map fun split => (character :: split.1, split.2)
  | [] => none

def isByte (digits : List Char) : Bool :=
  !digits.isEmpty && digits.all Char.isDigit && digits.length ≤ 3
    && (digits.length = 1 || digits.head? ≠ some '0')
    && numberOf digits ≤ 255

/-- How many of the eight groups a piece stands for. The last may be written as
four bytes, which are two groups. -/
def groupWidth (isLast : Bool) (piece : List Char) : Option Nat :=
  if 1 ≤ piece.length && piece.length ≤ 4 && piece.all isHexDigit then some 1
  else
    let bytes := pieces '.' piece
    if isLast && bytes.length = 4 && bytes.all isByte then some 2 else none

def groupCount (isLast : Bool) (text : List Char) : Option Nat :=
  if text.isEmpty then some 0
  else
    let pieces := pieces ':' text
    let widths := pieces.mapIdx fun index piece =>
      groupWidth (isLast && index + 1 = pieces.length) piece
    (widths.mapM id).map (·.foldl (· + ·) 0)

def isEightGroups (text : List Char) : Bool :=
  match splitDoubleColon text with
  | none => groupCount true text = some 8
  | some (before, behind) =>
    match groupCount false before, groupCount true behind with
    | some first, some second => first + second ≤ 7
    | _, _ => false

/-- A number in an address of four: decimal, octal behind a zero, or hexadecimal. -/
def readHostNumber? (text : List Char) : Option Nat :=
  let (base, digits) : Nat × List Char :=
    match text with
    | '0' :: 'x' :: digits | '0' :: 'X' :: digits => (16, digits)
    | '0' :: digit :: digits => (8, digit :: digits)
    | digits => (10, digits)
  if text.isEmpty then none
  else
    digits.foldlM (fun value digit => do
      let digit ← hexValue? digit
      if digit < base then some (base * value + digit) else none) 0

/-- The parts of a name between its points. One point at the end does not count. -/
def hostParts (name : List Char) : List (List Char) :=
  let parts := pieces '.' name
  if 1 < parts.length && parts.getLast? = some [] then parts.dropLast else parts

def endsInNumber (name : List Char) : Bool :=
  match (hostParts name).getLast? with
  | none | some [] => false
  | some last => last.all Char.isDigit || (readHostNumber? last).isSome

/-- All numbers but the last are bytes, and the last fills the bytes that remain. -/
def isFourNumbers (name : List Char) : Bool :=
  let parts := hostParts name
  match parts.mapM readHostNumber? with
  | none => false
  | some numbers =>
    numbers.length ≤ 4 && numbers.dropLast.all (· ≤ 255)
      && (numbers.getLast?.getD 0) < Nat.pow 256 (5 - numbers.length)

def isForbidden (character : Char) : Bool :=
  " #/:<>?@[\\]^|\x00".toList.contains character

def checkBrackets (text : List Char) : Except HostFault Unit :=
  if text.getLast? = some ']' && isEightGroups ((text.drop 1).dropLast) then .ok ()
  else .error .eightGroups

def checkHost (text : List Char) : Except HostFault Unit :=
  if text.head? = some '[' then checkBrackets text
  else if text.any isForbidden then .error .character
  else .ok ()

def checkWebHost (text : List Char) : Except HostFault Unit :=
  if text.head? = some '[' then checkBrackets text
  else
    match decodeText (percentDecode text) with
    | .error _ => .error .name
    | .ok name =>
      if name.any fun character =>
          isForbidden character || character < ' ' || character = '%' || character = '\x7f' then
        .error .name
      else if endsInNumber name && !isFourNumbers name then .error .fourNumbers
      else .ok ()

example : isEightGroups "::1".toList && isEightGroups "1:2:3:4:5:6:1.2.3.4".toList = true := by
  decide +kernel

example : endsInNumber "1.2.0x3.".toList && isFourNumbers "1.2.0x3.".toList = true := by
  decide +kernel

end Batchwise
