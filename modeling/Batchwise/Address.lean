import Batchwise.Address.Host

namespace Batchwise

/-! Addresses of databases. An address has a scheme and a body. Two slashes at
the start of the body are followed by an authority: a host, with the name of a
user in front of it and a port behind it, if need be. -/

inductive AddressFault where
  | noScheme
  | noHost
  | port
  | host (fault : HostFault)
  deriving DecidableEq, Repr

def AddressFault.message : AddressFault → String
  | noScheme => "relative URL without a base"
  | noHost => "empty host"
  | port => "invalid port number"
  | host .character => "invalid domain character"
  | host .name => "invalid international domain name"
  | host .fourNumbers => "invalid IPv4 address"
  | host .eightGroups => "invalid IPv6 address"

/-- An address whose scheme is in lower case, and whose body is written without
what has no meaning: an authority without its empty parts, and a path without
the steps that lead nowhere. -/
structure Address where
  scheme : List Char
  body : List Char
  deriving DecidableEq, Repr

namespace Address

def clean (text : List Char) : List Char :=
  let isOuter (character : Char) : Bool := character ≤ ' '
  let trimmed := ((text.dropWhile isOuter).reverse.dropWhile isOuter).reverse
  trimmed.filter fun character => character ≠ '\t' && character ≠ '\n' && character ≠ '\r'

def isSchemePart (character : Char) : Bool :=
  character.isAlphanum || character = '+' || character = '-' || character = '.'

def scheme? (text : List Char) : Option (List Char × List Char) :=
  let scheme := text.takeWhile isSchemePart
  match scheme.head?, text.drop scheme.length with
  | some first, ':' :: rest => if first.isAlpha then some (scheme.map Char.toLower, rest) else none
  | _, _ => none

/-! An authority ends at a slash, at a question mark or at a number sign, and on
the web also at a backslash. -/

def endsAuthority (isWeb : Bool) (character : Char) : Bool :=
  character = '/' || character = '?' || character = '#' || (isWeb && character = '\\')

/-- The name of a user, in front of its sign. A colon without a password behind
it is left out, and so is the sign when there is nothing before it. -/
def normalizeUser (user : List Char) : List Char :=
  let (name, password) := splitFirst ':' user
  let password := password.getD []
  let written := if password.isEmpty then name else name ++ ':' :: password
  if written.isEmpty then [] else written ++ ['@']

def takeHost (bracketed : Bool) : List Char → List Char
  | [] => []
  | character :: rest =>
    if character = ':' && !bracketed then []
    else
      let bracketed := if character = '[' then true else bracketed && character ≠ ']'
      character :: takeHost bracketed rest

/-- The number of a port. Nothing stands for the usual one. -/
def readPort (digits : List Char) : Except AddressFault (Option Nat) :=
  let value := numberOf digits
  if !digits.all Char.isDigit || 65535 < value then .error .port
  else .ok (if digits.isEmpty then none else some value)

def readAuthority (isWeb isLast : Bool) (text : List Char) :
    Except AddressFault (List Char) := do
  let (user, place) := splitLast '@' text
  if user = some [] && place.isEmpty && !isLast then throw .noHost
  let user := (user.map normalizeUser).getD []
  let host := takeHost false place
  if isWeb && host.isEmpty then throw .noHost
  (if isWeb then checkWebHost host else checkHost host).mapError .host
  let (port, isOpen) :=
    match place.drop host.length with
    | _ :: port => (port, true)
    | [] => ([], false)
  if host.isEmpty && isOpen then throw .noHost
  let port := ((← readPort port).map fun port => ':' :: (toString port).toList).getD []
  if host.isEmpty && !user.isEmpty then throw .noHost
  return user ++ host ++ port

/-! A part of a path that is one point stands for its place, and two points lead
one part back. Either point may be written with a percent sign. -/

def readPoints (part : List Char) : List Char :=
  match part with
  | '%' :: '2' :: mark :: rest =>
    if mark.toLower = 'e' then '.' :: readPoints rest else part
  | '.' :: rest => '.' :: readPoints rest
  | part => part

def walk (before : List (List Char)) : List (List Char) → List (List Char)
  | [] => before.reverse
  | part :: rest =>
    let ending (before : List (List Char)) : List (List Char) :=
      if rest.isEmpty then [] :: before else before
    if readPoints part = ['.', '.'] then walk (ending (before.drop 1)) rest
    else if readPoints part = ['.'] then walk (ending before) rest
    else walk (part :: before) rest

def normalizePath (path : List Char) : List Char :=
  match path with
  | '/' :: parts => (walk [] (pieces '/' parts)).flatMap ('/' :: ·)
  | path => path

def endsPath (character : Char) : Bool :=
  character = '?' || character = '#'

/-- The body of an address whose scheme is none of the web. A path by itself must
not look like an authority. -/
def readBody (body : List Char) : Except AddressFault (List Char) := do
  let withPath (rest : List Char) : List Char :=
    let path := rest.takeWhile (!endsPath ·)
    normalizePath path ++ rest.drop path.length
  match body with
  | '/' :: '/' :: rest =>
    let authority := rest.takeWhile (!endsAuthority false ·)
    let behind := rest.drop authority.length
    return '/' :: '/' :: (← readAuthority false behind.isEmpty authority) ++ withPath behind
  | '/' :: _ =>
    let path := withPath body
    return if ['/', '/'].isPrefixOf path then '/' :: '.' :: path else path
  | _ => return body

def webSchemes : List String := ["http", "https", "ws", "wss", "ftp"]

def isSlash (character : Char) : Bool :=
  character = '/' || character = '\\'

def isDrive : List Char → Bool
  | [letter, mark] => letter.isAlpha && (mark = ':' || mark = '|')
  | _ => false

def checkFileHost (body : List Char) : Except AddressFault Unit :=
  match body with
  | first :: second :: rest =>
    let host := rest.takeWhile (!endsAuthority true ·)
    if isSlash first && isSlash second && !host.isEmpty && !isDrive host then
      (checkWebHost host).mapError .host
    else .ok ()
  | _ => .ok ()

def read (text : List Char) : Except AddressFault Address :=
  match scheme? (clean text) with
  | none => .error .noScheme
  | some (scheme, body) => do
    if webSchemes.contains (String.ofList scheme) then
      let authority := (body.dropWhile isSlash).takeWhile (!endsAuthority true ·)
      let _ ← readAuthority true true authority
      return ⟨scheme, body⟩
    else if scheme = "file".toList then
      checkFileHost body
      return ⟨scheme, body⟩
    else return ⟨scheme, ← readBody body⟩

example :
    ((read " Db://u:@h:080/a/./b/../%2E%2e/c?x".toList).toOption.map fun address =>
      String.ofList address.body) = some "//u@h:80/c?x" := by
  decide +kernel

end Address

end Batchwise
