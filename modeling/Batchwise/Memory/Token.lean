import Batchwise.Text.Digits

namespace Batchwise.Memory

/-! The tokens of SQL text. Blanks and comments part them; a comment is closed by
the first closing delimiter, or by the end of the text. -/

inductive TokenKind where
  | word
  | name
  | string
  | bytes
  | number
  | parameter
  | symbol
  | unknown
  deriving DecidableEq, Repr

structure Token where
  kind : TokenKind
  text : List Char
  source : List Char
  /-- The blanks and comments behind it. -/
  gap : List Char
  deriving DecidableEq, Repr

def sameName (first second : List Char) : Bool :=
  first.map Char.toLower == second.map Char.toLower

def isBlank (character : Char) : Bool :=
  character = ' ' || character = '\t' || character = '\n' || character = '\r'
    || character = '\x0c'

def isSpace (character : Char) : Bool :=
  isBlank character || character = '\x0b'

def isWordStart (character : Char) : Bool :=
  character.isAlpha || character = '_' || 0x80 ≤ character.toNat

def isWordPart (character : Char) : Bool :=
  isWordStart character || character.isDigit || character = '$'

def delimitedLength (closer : Char) : List Char → Option Nat
  | [] => none
  | [character] => if character = closer then some 1 else none
  | first :: second :: rest =>
    if first ≠ closer then (delimitedLength closer (second :: rest)).map (· + 1)
    else if second = closer then (delimitedLength closer rest).map (· + 2)
    else some 1

def undouble (closer : Char) : List Char → List Char
  | first :: second :: rest =>
    if first = closer && second = closer then closer :: undouble closer rest
    else first :: undouble closer (second :: rest)
  | rest => rest

def commentLength : List Char → Nat
  | [] => 0
  | '*' :: '/' :: _ => 2
  | _ :: rest => commentLength rest + 1

def digits (text : List Char) : List Char :=
  text.takeWhile Char.isDigit

/-- A number in front of the text: digits with a point among them and an
exponent behind them. -/
def readNumber (text : List Char) : List Char :=
  let whole := digits text
  let fraction :=
    match text.drop whole.length with
    | '.' :: rest => '.' :: digits rest
    | _ => []
  let mantissa := whole ++ fraction
  let exponent :=
    match text.drop mantissa.length with
    | mark :: sign :: rest =>
      if mark.toLower ≠ 'e' then []
      else if sign = '+' || sign = '-' then
        if (digits rest).isEmpty then [] else mark :: sign :: digits rest
      else mark :: digits (sign :: rest)
    | _ => []
  mantissa ++ (if exponent.length = 1 then [] else exponent)

def startsNumber : List Char → Bool
  | '.' :: digit :: _ => digit.isDigit
  | digit :: _ => digit.isDigit
  | [] => false

def hexDigits? : List Char → Option (List Char)
  | '0' :: mark :: rest =>
    let digits := rest.takeWhile isHexDigit
    if mark.toLower = 'x' && !digits.isEmpty then some digits else none
  | _ => none

/-- How far a parameter reaches behind its mark, and whether it has a name. The
name may hold double colons, and text in parentheses may end it. -/
def parameterLength (named : Bool) : List Char → Nat × Bool
  | [] => (0, named)
  | ':' :: ':' :: rest =>
    let (length, valid) := parameterLength named rest
    (length + 2, valid)
  | '(' :: rest =>
    let inner := rest.takeWhile fun character => character ≠ ')' && !isSpace character
    if !named then (0, false)
    else if (rest.drop inner.length).head? = some ')' then (inner.length + 2, true)
    else (inner.length + 1, false)
  | character :: rest =>
    if isWordPart character then
      let (length, valid) := parameterLength true rest
      (length + 1, valid)
    else (0, named)

def bytesLength (text : List Char) : TokenKind × Nat :=
  let digits := text.takeWhile isHexDigit
  if (text.drop digits.length).head? = some '\'' && digits.length % 2 = 0 then
    (.bytes, digits.length + 1)
  else
    let inner := text.takeWhile (· ≠ '\'')
    (.unknown, min (inner.length + 1) text.length)

/-- The operators of more than one character; one that starts another comes
behind it. -/
def operators : List String :=
  ["->>", "->", "<=", "<>", "<<", ">=", ">>", "==", "!=", "||"]

def isSymbolMark (character : Char) : Bool :=
  "();,.+-*/%=<>|&~".toList.contains character

def isMark (character : Char) : Bool :=
  character = ':' || character = '@' || character = '#' || character = '$'

def readSymbol (text : List Char) : TokenKind × Nat :=
  match operators.find? (·.toList.isPrefixOf text) with
  | some operator => (.symbol, operator.length)
  | none => (if text.head?.any isSymbolMark then .symbol else .unknown, 1)

/-- How far the token or the gap in front of a text reaches. A gap has no kind,
and a delimiter that is not closed makes the whole text unknown. -/
def measure (text : List Char) : Option TokenKind × Nat :=
  let delimited (kind : TokenKind) (length : Option Nat) : Option TokenKind × Nat :=
    match length with
    | some length => (some kind, length + 1)
    | none => (some .unknown, text.length)
  match text with
  | [] => (none, 0)
  | '-' :: '-' :: rest => (none, 2 + (rest.takeWhile (· ≠ '\n')).length)
  | '/' :: '*' :: first :: rest => (none, 2 + commentLength (first :: rest))
  | '\'' :: rest => delimited .string (delimitedLength '\'' rest)
  | '"' :: rest => delimited .name (delimitedLength '"' rest)
  | '\x60' :: rest => delimited .name (delimitedLength '\x60' rest)
  | '[' :: rest => delimited .name ((rest.idxOf? ']').map (· + 1))
  | first :: rest =>
    if isBlank first then (none, 1 + (rest.takeWhile isSpace).length)
    else if first = '\uFEFF' then (none, 1)
    else if first.toLower = 'x' && rest.head? = some '\'' then
      let (kind, length) := bytesLength (rest.drop 1)
      (some kind, length + 2)
    else if isWordStart first then (some .word, (text.takeWhile isWordPart).length)
    else if startsNumber text then
      match hexDigits? text with
      | some digits => (some .number, 2 + digits.length)
      | none =>
        let length := (readNumber text).length
        let attached := ((text.drop length).takeWhile isWordPart).length
        (some (if attached = 0 then .number else .unknown), length + attached)
    else if first = '?' then (some .parameter, 1 + (digits rest).length)
    else if isMark first then
      let (length, valid) := parameterLength false rest
      (some (if valid then .parameter else .unknown), length + 1)
    else
      let (kind, length) := readSymbol text
      (some kind, length)

def meaning (kind : TokenKind) (source : List Char) : List Char :=
  let inner := (source.drop 1).take (source.length - 2)
  match kind, source.head? with
  | .name, some '[' => inner
  | .name, some closer | .string, some closer => undouble closer inner
  | _, _ => source

/-- How far the gap in front of a text reaches. Every part of it takes
characters, so `limit` need not exceed their number. -/
def gapLength : Nat → List Char → Nat
  | 0, _ => 0
  | limit + 1, text =>
    match measure text with
    | (none, length) => if length = 0 then 0 else length + gapLength limit (text.drop length)
    | (some _, _) => 0

def splitGap (text : List Char) : List Char × List Char :=
  text.splitAt (gapLength text.length text)

def readTokens : Nat → List Char → List Token
  | 0, _ => []
  | limit + 1, text =>
    match measure text with
    | (none, _) => []
    | (some kind, length) =>
      let source := text.take length
      let (gap, rest) := splitGap (text.drop length)
      ⟨kind, meaning kind source, source, gap⟩ :: readTokens limit rest

def tokens (text : List Char) : List Token :=
  readTokens text.length (splitGap text).2

def written : List Token → List Char
  | [] => []
  | [token] => token.source
  | token :: rest => token.source ++ token.gap ++ written rest

example : (tokens "a/**/<=[b c]".toList).map (·.text) = ["a", "<=", "b c"].map String.toList := by
  decide +kernel

end Batchwise.Memory
