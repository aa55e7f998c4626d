import Batchwise.Text.Digits

namespace Batchwise

/-! Text as bytes. A character takes one to four bytes: its first one tells how
many follow and, in four cases, narrows the range of the second. -/

/-- Where bytes stop being text. The fault is as long as the bytes that could
still begin a character, or has no length where the end cuts one off. -/
structure EncodingFault where
  index : Nat
  length : Option Nat
  deriving DecidableEq, Repr

def EncodingFault.message (fault : EncodingFault) : String :=
  match fault.length with
  | some length =>
    "invalid utf-8 sequence of " ++ toString length ++ " bytes from index "
      ++ toString fault.index
  | none => "incomplete utf-8 byte sequence from index " ++ toString fault.index

/-- The bytes that a first byte asks for, and the bounds of the second. -/
structure Lead where
  following : Nat
  least : Nat
  greatest : Nat

def lead? (byte : Nat) : Option Lead :=
  if byte < 0x80 then some ⟨0, 0, 0⟩
  else if byte < 0xC2 then none
  else if byte < 0xE0 then some ⟨1, 0x80, 0xBF⟩
  else if byte < 0xF0 then
    some ⟨2, if byte = 0xE0 then 0xA0 else 0x80, if byte = 0xED then 0x9F else 0xBF⟩
  else if byte < 0xF5 then
    some ⟨3, if byte = 0xF0 then 0x90 else 0x80, if byte = 0xF4 then 0x8F else 0xBF⟩
  else none

def readFollowing (taken value : Nat) : Lead → List UInt8 → Except (Option Nat) (Nat × List UInt8)
  | ⟨0, _, _⟩, bytes => .ok (value, bytes)
  | ⟨_ + 1, _, _⟩, [] => .error none
  | ⟨following + 1, least, greatest⟩, byte :: rest =>
    if least ≤ byte.toNat && byte.toNat ≤ greatest then
      readFollowing (taken + 1) (64 * value + byte.toNat % 64) ⟨following, 0x80, 0xBF⟩ rest
    else .error (some taken)

def leadBits (byte : Nat) (following : Nat) : Nat :=
  match following with
  | 0 => byte
  | 1 => byte % 32
  | 2 => byte % 16
  | _ => byte % 8

def readCharacter (first : UInt8) (rest : List UInt8) :
    Except (Option Nat) (Char × List UInt8) :=
  match lead? first.toNat with
  | none => .error (some 1)
  | some lead =>
    (readFollowing 1 (leadBits first.toNat lead.following) lead rest).map fun (code, rest) =>
      (Char.ofNat code, rest)

/-- The characters and the faults of bytes that begin at an index. Reading goes
on behind a fault that has a length. Each step takes bytes, so `limit` need not
exceed their number. -/
def readCharacters : Nat → Nat → List UInt8 → List (Except EncodingFault Char)
  | 0, _, _ => []
  | _, _, [] => []
  | limit + 1, index, first :: rest =>
    match readCharacter first rest with
    | .ok (character, behind) =>
      .ok character :: readCharacters limit (index + 1 + (rest.length - behind.length)) behind
    | .error none => [.error ⟨index, none⟩]
    | .error (some length) =>
      .error ⟨index, some length⟩
        :: readCharacters limit (index + length) (rest.drop (length - 1))

def decodeText (bytes : List UInt8) : Except EncodingFault (List Char) :=
  (readCharacters bytes.length 0 bytes).mapM id

def decodeLoosely (bytes : List UInt8) : List Char :=
  (readCharacters bytes.length 0 bytes).map fun
    | .ok character => character
    | .error _ => '\uFFFD'

def encodeText (text : List Char) : List UInt8 :=
  (String.ofList text).toUTF8.toList

/-- Bytes may be written as two hexadecimal digits behind a percent sign. A sign
without them stands for itself. -/
def percentDecode : List Char → List UInt8
  | [] => []
  | '%' :: high :: low :: rest =>
    match hexValue? high, hexValue? low with
    | some first, some second => UInt8.ofNat (16 * first + second) :: percentDecode rest
    | _, _ => encodeText ['%'] ++ percentDecode (high :: low :: rest)
  | character :: rest => encodeText [character] ++ percentDecode rest

example : (decodeText (percentDecode "a%C3%A9%".toList)).toOption = some "aé%".toList := by
  decide +kernel

/-- Three bytes cannot be cut short. -/
example : decodeLoosely [0x61, 0xE2, 0x82] = ['a', '\uFFFD'] := by decide +kernel

end Batchwise
