import Batchwise.Files
import Batchwise.Options
import Batchwise.Toml.Document

namespace Batchwise

/-! Settings from a configuration file. Every setting is optional, and a file
that has any other key is refused. -/

structure Settings where
  databaseUrl : Option (List Char) := none
  mode : Option Mode := none
  continueOnError : Option Bool := none
  logLevel : Option (List Char) := none
  bindings : Bindings := .empty

namespace Settings

open Toml (Node Table)

def string? : Node → Option (List Char)
  | .string text => some text
  | _ => none

def boolean? : Node → Option Bool
  | .boolean value => some value
  | _ => none

def entries? : Node → Option (List (List Char × Node))
  | .braces entries | .table _ entries => some entries
  | _ => none

/-- A mode is written as its exact name, or as a table whose only key is the
name and whose value is empty. -/
def mode? (node : Node) : Option Mode :=
  match node with
  | .string name => Mode.ofName? name
  | node =>
    match entries? node with
    | some [(name, .emptyArray)] => Mode.ofName? name
    | some [(name, value)] =>
      if (entries? value).any List.isEmpty then Mode.ofName? name else none
    | _ => none

def dateKey : List Char := "$__toml_private_datetime".toList

/-- The bindings of a table of strings. A date counts as a table with one entry. -/
def bindings? (node : Node) : Option Bindings :=
  match node with
  | .date text => some (.ofList [(dateKey, text)])
  | node => do
    let entries ← entries? node
    let strings ← entries.mapM fun entry => do
      let value ← string? entry.2
      pure (entry.1, value)
    pure (.ofList strings)

def set (settings : Settings) (key : List Char) (node : Node) : Option Settings :=
  match String.ofList key with
  | "database_url" => do
    let url ← string? node
    pure { settings with databaseUrl := some url }
  | "mode" => do
    let mode ← mode? node
    pure { settings with mode := some mode }
  | "continue_on_error" => do
    let policy ← boolean? node
    pure { settings with continueOnError := some policy }
  | "log_level" => do
    let level ← string? node
    pure { settings with logLevel := some level }
  | "variables" => do
    let bindings ← bindings? node
    pure { settings with bindings }
  | _ => none

def read (document : List Char) : Option Settings := do
  let table ← Toml.readDocument document
  table.entries.foldlM (fun settings entry => settings.set entry.1 entry.2) {}

/-- The options for a script. What the caller gives wins over the settings. -/
def options (settings : Settings) (mode : Option Mode) (bindings : Bindings) : Options where
  mode := (mode.or settings.mode).getD .sqlcmd
  bindings := settings.bindings.extend bindings.entries
  continueOnError := settings.continueOnError.getD true

def usualPlaces (configDirectory : List Char) : List (List Char) :=
  ["sqlscript.toml".toList, configDirectory ++ "/sqlscript/config.toml".toList]

end Settings

inductive SettingsFault where
  | unreadable (path : List Char) (fault : FileFault)
  | refused
  deriving DecidableEq, Repr

def SettingsFault.message : SettingsFault → String
  | unreadable path fault => "Failed to read '" ++ String.ofList path ++ "': " ++ fault.message
  | refused => "TOML parse error"

namespace Settings

def readFile (files : Files) (path : List Char) : Except SettingsFault Settings :=
  match files.readText path with
  | .error fault => .error (.unreadable path fault)
  | .ok text =>
    match read text with
    | some settings => .ok settings
    | none => .error .refused

/-- Read the file that the caller names, or else the first of the usual places
that is a file, or else nothing. -/
def load (files : Files) (configDirectory : List Char) (path : Option (List Char)) :
    Except SettingsFault Settings :=
  match path.or ((usualPlaces configDirectory).find? files.isFile) with
  | some path => readFile files path
  | none => .ok {}

end Settings

end Batchwise
