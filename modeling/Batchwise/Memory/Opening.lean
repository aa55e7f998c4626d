import Batchwise.Address
import Batchwise.Files
import Batchwise.Memory.Tables
import Batchwise.Text.Blank
import Batchwise.Text.Visible

namespace Batchwise.Memory

/-! Opening a database by its address. Only one scheme has a driver. The body of
its addresses is the path of a file, or the name of the database in memory, with
parameters behind it. A file has to exist unless a parameter asks for it to be
made. -/

inductive Parameter where
  | mode
  | cache
  | immutable
  deriving DecidableEq, Repr

def Parameter.name : Parameter → String
  | mode => "mode"
  | cache => "cache"
  | immutable => "immutable"

inductive OpeningFault where
  | address (fault : AddressFault)
  | noDriver (scheme : List Char)
  | path (fault : EncodingFault)
  | unknownValue (parameter : Parameter) (value : List Char)
  | unknownParameter (name : List Char)
  | noFileSystem (name : List Char)
  | authority (name : List Char)
  | cannotOpen
  | cannotRead
  deriving DecidableEq, Repr

def OpeningFault.message : OpeningFault → String
  | address fault => "error with configuration: " ++ fault.message
  | noDriver scheme =>
    "error with configuration: no driver found for URL scheme "
      ++ String.ofList (quote scheme)
  | path fault => "error with configuration: " ++ fault.message
  | unknownValue parameter value =>
    "error with configuration: unknown value " ++ String.ofList (quote value) ++ " for \x60"
      ++ parameter.name ++ "\x60"
  | unknownParameter name =>
    "error with configuration: unknown query parameter \x60" ++ String.ofList name
      ++ "\x60 while parsing connection URL"
  | noFileSystem name =>
    "error returned from database: (code: 1) no such vfs: " ++ String.ofList name
  | authority name =>
    "error returned from database: (code: 1) invalid uri authority: " ++ String.ofList name
  | cannotOpen => "error returned from database: (code: 14) unable to open database file"
  | cannotRead => "error returned from database: (code: 266) disk I/O error"

structure Opening where
  path : List Char
  inMemory : Bool := false
  readOnly : Bool := false
  create : Bool := false
  immutable : Bool := false
  fileSystem : Option (List Char) := none
  deriving DecidableEq, Repr

namespace Opening

def readParameter (written : List Char) : List Char × List Char :=
  let read (part : List Char) : List Char :=
    decodeLoosely (percentDecode (part.map fun character =>
      if character = '+' then ' ' else character))
  let (name, value) := splitFirst '=' written
  (read name, read (value.getD []))

def setMode (opening : Opening) (value : List Char) : Except OpeningFault Opening :=
  match String.ofList value with
  | "ro" => .ok { opening with readOnly := true }
  | "rw" => .ok opening
  | "rwc" => .ok { opening with create := true }
  | "memory" => .ok { opening with inMemory := true }
  | _ => .error (.unknownValue .mode value)

def setImmutable (opening : Opening) (value : List Char) : Except OpeningFault Opening :=
  match String.ofList value with
  | "true" | "1" => .ok { opening with immutable := true }
  | "false" | "0" => .ok { opening with immutable := false }
  | _ => .error (.unknownValue .immutable value)

/-- Whether the database is shared makes no difference to one that is opened once. -/
def setCache (opening : Opening) (value : List Char) : Except OpeningFault Opening :=
  if value = "private".toList || value = "shared".toList then .ok opening
  else .error (.unknownValue .cache value)

def set (opening : Opening) (parameter : List Char × List Char) :
    Except OpeningFault Opening :=
  let (name, value) := parameter
  match String.ofList name with
  | "mode" => opening.setMode value
  | "cache" => opening.setCache value
  | "immutable" => opening.setImmutable value
  | "vfs" => .ok { opening with fileSystem := some value }
  | _ => .error (.unknownParameter name)

/-- The scheme may be repeated in front of the path, with two slashes first. -/
def dropSchemes (written : List Char) : Nat → List Char → List Char
  | 0, body => body
  | limit + 1, body =>
    if written.isPrefixOf body then dropSchemes written limit (body.drop written.length)
    else body

def ofAddress (address : Address) : Except OpeningFault Opening := do
  if address.scheme ≠ "sqlite".toList then throw (.noDriver address.scheme)
  let text := "sqlite:".toList ++ address.body
  let text := dropSchemes "sqlite://".toList text.length text
  let (path, parameters) := splitFirst '?' (dropSchemes "sqlite:".toList text.length text)
  let opening : Opening ←
    if path = ":memory:".toList then pure { path, inMemory := true }
    else pure { path := ← (decodeText (percentDecode path)).mapError .path }
  let written := (pieces '&' (parameters.getD [])).filter (!List.isEmpty ·)
  written.foldlM (fun opening parameter => opening.set (readParameter parameter)) opening

def memorySystem : List Char := "memdb".toList

def fileSystems : List (List Char) :=
  memorySystem :: ["unix", "unix-none", "unix-excl", "unix-dotfile"].map String.toList

/-- A path that begins with the name of the scheme of files is an address again,
unless it is passed on with parameters. Its host can only be this machine. -/
def filePath (opening : Opening) : Except OpeningFault (List Char) :=
  let plain (text : List Char) : List Char :=
    decodeLoosely (percentDecode (text.takeWhile fun character =>
      character ≠ '?' && character ≠ '#'))
  if opening.immutable || opening.fileSystem.isSome || !"file:".toList.isPrefixOf opening.path then
    .ok opening.path
  else
    match opening.path.drop 5 with
    | '/' :: '/' :: rest =>
      let host := rest.takeWhile (· ≠ '/')
      if host.isEmpty || host = "localhost".toList then .ok (plain (rest.drop host.length))
      else .error (.authority host)
    | rest => .ok (plain rest)

/-- What can be done with a database in a file. A file of one byte counts as an
empty one, and files with anything else in them are not taken for databases. -/
def access (opening : Opening) (contents : ByteArray) : Access :=
  if 1 < contents.size then .none
  else if opening.readOnly || opening.immutable then .readOnly
  else .full

/-- Open the database in a file, which may make the file. A directory can be
opened to be read, but there is nothing to read. -/
def openFile (opening : Opening) (files : Files) (path : List Char) :
    Except OpeningFault (Files × Tables) :=
  match files.settlePath path with
  | none => .error .cannotOpen
  | some place =>
    match files.at? place, files.at? (Files.parent place) with
    | some (.file contents), _ => .ok (files, .empty (opening.access contents))
    | some .directory, _ => .error (if opening.readOnly then .cannotRead else .cannotOpen)
    | none, some .directory =>
      if opening.create && !opening.readOnly then
        .ok (files.makeFile place, .empty (opening.access .empty))
      else .error .cannotOpen
    | none, _ => .error .cannotOpen

def perform (opening : Opening) (files : Files) : Except OpeningFault (Files × Tables) := do
  for name in opening.fileSystem do
    if !fileSystems.contains name then throw (.noFileSystem name)
  let path ← opening.filePath
  if opening.inMemory || path.isEmpty || path = ":memory:".toList then
    return (files, .empty (if opening.readOnly then .readOnly else .full))
  if opening.fileSystem = some memorySystem then return (files, .empty (opening.access .empty))
  opening.openFile files path

end Opening

def readOpening (text : List Char) : Except OpeningFault Opening := do
  Opening.ofAddress (← (Address.read text).mapError .address)

/-- Databases in memory. Each starts without a table, whatever its address. -/
def databases : Databases Tables where
  execute tables text := tables.executeAll (statementsOf (trim text))
  connect files address :=
    ((readOpening address).bind (·.perform files)).mapError OpeningFault.message
  acquire := .ok

end Batchwise.Memory
