import Batchwise.Console.Command
import Batchwise.Memory.Opening

namespace Batchwise

/-! The program. It looks at the files that its arguments name, carries out the
order, and prints the report. -/

def Files.way (directory : List (List Char)) : List (List Char) → List (List (List Char))
  | [] => []
  | part :: rest =>
    if part = [] || part = ['.'] then Files.way directory rest
    else
      let next := if part = ['.', '.'] then Files.parent directory else directory ++ [part]
      next :: Files.way next rest

def Files.spell (place : List (List Char)) : String :=
  match place with
  | ['/'] :: names => "/" ++ "/".intercalate (names.map String.ofList)
  | names => "/".intercalate (names.map String.ofList)

def lookAt (place : List (List Char)) : IO (Option Place) := do
  try
    return some (.file (← IO.FS.readBinFile (Files.spell place)))
  catch
    | .inappropriateType _ 21 _ => return some .directory
    | _ => return none

def survey (paths : List (List Char)) : IO Files := do
  let mut places := []
  for place in paths.flatMap fun path => Files.way (Files.startOf path).1 (Files.startOf path).2 do
    if let some found ← lookAt place then
      places := (place, found) :: places
  return ⟨places⟩

namespace Invocation

def paths (invocation : Invocation) (surroundings : Surroundings) : List (List Char) :=
  let script :=
    match invocation.source with
    | some (.file path) => [path]
    | _ => []
  Settings.usualPlaces surroundings.configDirectory ++ invocation.settingsFile.toList
    ++ invocation.logFile.toList ++ script

def opening? (invocation : Invocation) (surroundings : Surroundings) : Option Memory.Opening := do
  let (settings, _, _) ← (invocation.prepare surroundings).toOption
  let _ ← invocation.source
  let address ← invocation.address? surroundings settings
  if invocation.explain then none else (Memory.readOpening address).toOption

def openFiles (invocation : Invocation) (surroundings : Surroundings) : Files :=
  let logged := (invocation.openLog surroundings).toOption
  let files := (logged.map (·.2)).getD surroundings.files
  let opened := (invocation.opening? surroundings).bind fun opening =>
    (opening.perform files).toOption
  (opened.map (·.1)).getD files

def makeFiles (before after : Files) : IO Unit := do
  for (place, _) in after.places.take (after.places.length - before.places.length) do
    IO.FS.withFile (Files.spell place) .append fun _ => pure ()

def lookAround (invocation : Invocation) (surroundings : Surroundings) : IO Surroundings := do
  let known := invocation.paths surroundings
  let before := { surroundings with files := ← survey known }
  let database := (invocation.opening? before).bind fun opening => opening.filePath.toOption
  let paths := known ++ database.toList
  let found := { surroundings with files := ← survey paths }
  makeFiles found.files (invocation.openFiles found)
  return { surroundings with files := ← survey paths }

end Invocation

def isSwitchedOn (name : String) : IO Bool := do
  return ((← IO.getEnv name).map (· != "0")).getD false

def wantsColours : IO Bool := do
  if ← isSwitchedOn "CLICOLOR_FORCE" then return true
  if (← IO.getEnv "NO_COLOR").isSome then return false
  if (← IO.getEnv "CLICOLOR") = some "0" then return false
  (← IO.getStdout).isTty

def configDirectory : IO (List Char) := do
  let home := (← IO.getEnv "HOME").getD ""
  match ← IO.getEnv "XDG_CONFIG_HOME" with
  | some path => return (if path.startsWith "/" then path else home ++ "/.config").toList
  | none => return (home ++ "/.config").toList

def surroundings : IO Surroundings := do
  return {
    files := ⟨[]⟩
    configDirectory := ← configDirectory
    databaseUrl := (← IO.getEnv "SQLSCRIPT_DATABASE_URL").map String.toList
    logFilter := (← IO.getEnv "RUST_LOG").map String.toList
    colours := ← wantsColours }

def printEntry (entry : Printed) : IO Unit :=
  match entry.stream with
  | .output => IO.println (String.ofList entry.text)
  | .error => IO.eprintln (String.ofList entry.text)

end Batchwise

open Batchwise in
def main (arguments : List String) : IO UInt32 := do
  let order := Order.ofArguments (arguments.map String.toList)
  let surroundings ← surroundings
  let surroundings ←
    match order with
    | .perform invocation => invocation.lookAround surroundings
    | _ => pure surroundings
  let report := order.report Memory.databases surroundings
  for entry in report.printed do
    printEntry entry
  return report.exitCode.toUInt32
