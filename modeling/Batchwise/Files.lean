import Batchwise.Error
import Batchwise.Text.Split

namespace Batchwise

/-! Files as a program sees them that runs in one directory. A place is known by
the names on the way to it, those of an absolute path behind a slash of their
own; every place on the way to another is a directory. -/

inductive Place where
  | file (contents : ByteArray)
  | directory

structure Files where
  places : List (List (List Char) × Place)

inductive Target where
  | file (contents : ByteArray)
  | directory
  /-- Nothing, in a directory that exists. -/
  | free (path : List (List Char))

namespace Files

def parts (path : List Char) : List (List Char) :=
  pieces '/' path

def parent (directory : List (List Char)) : List (List Char) :=
  if directory.all (· = ['.', '.']) then directory ++ [['.', '.']]
  else if directory = [['/']] then directory
  else directory.dropLast

/-- What stands at the end of a path. The directory of the program and those
above it are always there. -/
def at? (files : Files) (path : List (List Char)) : Option Place :=
  match files.places.find? (·.1 = path) with
  | some found => some found.2
  | none =>
    let isAbove := path.all (· = ['.', '.']) || path = [['/']]
    if isAbove || files.places.any (path.isPrefixOf ·.1) then some .directory else none

/-- Follow the parts of a path from a directory. A file is the end of a path:
nothing may follow it, not even a slash. -/
def follow (files : Files) (directory : List (List Char)) :
    List (List Char) → Except FileFault Target
  | [] => .ok .directory
  | part :: rest =>
    if part = [] || part = ['.'] then follow files directory rest
    else if part = ['.', '.'] then follow files (parent directory) rest
    else
      match files.at? (directory ++ [part]) with
      | some .directory => follow files (directory ++ [part]) rest
      | some (.file contents) =>
        if rest.isEmpty then .ok (.file contents) else .error .notDirectory
      | none => if rest.isEmpty then .ok (.free (directory ++ [part])) else .error .missing

/-- Take the parts of a path for steps, whether or not there are such directories.
No step leads on from a file. -/
def settle (files : Files) (directory : List (List Char)) :
    List (List Char) → Option (List (List Char))
  | [] => some directory
  | part :: rest =>
    if part = [] || part = ['.'] then settle files directory rest
    else if part = ['.', '.'] then settle files (parent directory) rest
    else
      match files.at? directory with
      | some (.file _) => none
      | _ => settle files (directory ++ [part]) rest

def startOf (path : List Char) : List (List Char) × List (List Char) :=
  match path with
  | '/' :: rest => ([['/']], parts rest)
  | path => ([], parts path)

def locate (files : Files) (path : List Char) : Except FileFault Target :=
  let (directory, parts) := startOf path
  if path.isEmpty then .error .missing else follow files directory parts

def settlePath (files : Files) (path : List Char) : Option (List (List Char)) :=
  let (directory, parts) := startOf path
  files.settle directory parts

def isFile (files : Files) (path : List Char) : Bool :=
  match files.locate path with
  | .ok (.file _) => true
  | _ => false

def readText (files : Files) (path : List Char) : Except FileFault (List Char) :=
  match files.locate path with
  | .error fault => .error fault
  | .ok .directory => .error .isDirectory
  | .ok (.free _) => .error .missing
  | .ok (.file contents) =>
    match String.fromUTF8? contents with
    | some text => .ok text.toList
    | none => .error .notText

def readScript (files : Files) (path : List Char) : Except FileFault (List Char) :=
  (files.readText path).map fun text =>
    match text with
    | '\uFEFF' :: rest => rest
    | text => text

def makeFile (files : Files) (path : List (List Char)) : Files :=
  ⟨(path, .file .empty) :: files.places⟩

/-- Open a file to write at its end, which makes it if need be. A path that ends
in a slash is that of a directory. -/
def openForAppending (files : Files) (path : List Char) : Except FileFault Files :=
  let file := (path.reverse.dropWhile (· = '/')).reverse
  if file.isEmpty || file = path then
    match files.locate path with
    | .error fault => .error fault
    | .ok .directory => .error .isDirectory
    | .ok (.file _) => .ok files
    | .ok (.free path) => .ok (files.makeFile path)
  else
    match files.locate file with
    | .error fault => .error fault
    | .ok _ => .error .isDirectory

end Files

end Batchwise
