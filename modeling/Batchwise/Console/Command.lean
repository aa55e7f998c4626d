import Batchwise.Console.Arguments
import Batchwise.Console.Filter
import Batchwise.Console.Preview
import Batchwise.Settings
import Batchwise.Variable.Argument

namespace Batchwise

/-! The program as a function of its arguments and its surroundings. -/

structure Surroundings where
  files : Files
  configDirectory : List Char
  databaseUrl : Option (List Char)
  logFilter : Option (List Char) := some "off".toList
  colours : Bool

inductive Obstacle where
  | settings (fault : SettingsFault)
  | logFilter (fault : FilterFault)
  | logFile (fault : FileFault)
  | definitions (fault : ArgumentFault)
  | script (fault : FileFault)
  | noScript
  deriving DecidableEq, Repr

namespace Obstacle

/-- The words for an obstacle. A fault of a script file is told with its cause,
which has the same words again. -/
def message : Obstacle → String
  | settings fault => (ScriptError.configuration fault.message).message
  | logFilter fault => fault.message
  | logFile fault => fault.message
  | definitions fault => (ScriptError.configuration fault.message).message
  | script fault => (ScriptError.file fault).message ++ ": " ++ fault.message
  | noScript => "explain needs a script: pass QUERY, --query or --file"

def print (colours : Bool) (obstacle : Obstacle) : Printed :=
  .errorLine (Style.boldRed.paint colours "Error:".toList ++ [' '] ++ obstacle.message.toList)

end Obstacle

def Source.read (files : Files) : Source → Except Obstacle (List Char)
  | file path => (files.readScript path).mapError .script
  | text script => .ok script

namespace Invocation

/-- Check what is to be logged. The argument comes first, and what the surroundings say
second. If that cannot be used it is passed over, and the settings decide. -/
def checkLogFilter (invocation : Invocation) (surroundings : Surroundings)
    (settings : Settings) : Except FilterFault Unit :=
  match invocation.logFilter with
  | some text => Filter.check text
  | none =>
    if surroundings.logFilter.any fun text => (Filter.check text).isOk then .ok ()
    else Filter.check (settings.logLevel.getD "warn".toList)

def openLog (invocation : Invocation) (surroundings : Surroundings) :
    Except Obstacle (Settings × Files) := do
  let settings ← (Settings.load surroundings.files surroundings.configDirectory
    invocation.settingsFile).mapError .settings
  (invocation.checkLogFilter surroundings settings).mapError .logFilter
  let files ←
    match invocation.logFile with
    | some path => (surroundings.files.openForAppending path).mapError .logFile
    | none => pure surroundings.files
  return (settings, files)

def prepare (invocation : Invocation) (surroundings : Surroundings) :
    Except Obstacle (Settings × Options × Files) := do
  let (settings, files) ← invocation.openLog surroundings
  let bindings ← (readArguments invocation.definitions).mapError .definitions
  return (settings, settings.options invocation.mode bindings, files)

def address? (invocation : Invocation) (surroundings : Surroundings) (settings : Settings) :
    Option (List Char) :=
  if invocation.dryRun then none
  else (invocation.databaseUrl.or surroundings.databaseUrl).or settings.databaseUrl

def console (invocation : Invocation) (surroundings : Surroundings) : Console :=
  ⟨invocation.verbosity, invocation.format, surroundings.colours⟩

end Invocation

def printUsage (colours : Bool) : List Printed :=
  [.line (Style.boldCyan.paint colours "sqlscript: sqlcmd-style SQL scripts".toList), .blank,
    .line "Usage: sqlscript [OPTIONS] [QUERY]".toList, .blank,
    .line "Try: sqlscript --help".toList]

/-- Run a script against the database at an address. The script is not read
before the database has been opened. -/
def Console.run {σ : Type} (console : Console) (databases : Databases σ) (files : Files)
    (options : Options) (source : Source) (address : List Char) : Report :=
  let opening := Verbosity.verbose.tellFrom console.verbosity
    [.line (console.paint .faint "Connecting to:" ++ ' ' :: address)]
  match databases.connect files address with
  | .error detail =>
    let told := Verbosity.quiet.tellFrom console.verbosity
      (console.printError (ScriptError.connection detail).message)
    ⟨opening ++ told, Code.connectionFailed.exitCode⟩
  | .ok (files, state) =>
    match source.read files with
    | .error obstacle => ⟨opening ++ [obstacle.print console.colours], 1⟩
    | .ok script =>
      let outcome := (databases.runScript state .never options script).1
      (console.reportOutcome outcome).behind opening

def Console.showInstead (console : Console) (options : Options) (script : List Char) : Report :=
  let report := showBatches console.format console.colours options script
  let hint := "⚠ No database URL. Use --database-url or set SQLSCRIPT_DATABASE_URL"
  let told := Verbosity.normal.tellFrom console.verbosity
    [.blank, .line (console.paint .yellow hint)]
  { report with printed := report.printed ++ told }

def Invocation.report {σ : Type} (invocation : Invocation) (databases : Databases σ)
    (surroundings : Surroundings) : Except Obstacle Report := do
  let (settings, options, files) ← invocation.prepare surroundings
  let console := invocation.console surroundings
  if invocation.explain then
    match invocation.source with
    | none => throw .noScript
    | some source => return explainScript console.colours options (← source.read files)
  else
    match invocation.source, invocation.address? surroundings settings with
    | none, _ => return ⟨printUsage console.colours, 0⟩
    | some source, some address =>
      return console.run databases files options source address
    | some source, none =>
      let script ← source.read files
      if invocation.dryRun then
        return showBatches console.format console.colours options script
      else return console.showInstead options script

/-- Carry out an invocation. An obstacle is told whatever the verbosity. -/
def Invocation.perform {σ : Type} (invocation : Invocation) (databases : Databases σ)
    (surroundings : Surroundings) : Report :=
  match invocation.report databases surroundings with
  | .ok report => report
  | .error obstacle => ⟨[obstacle.print surroundings.colours], 1⟩

namespace Order

def printHelp (colours : Bool) : List Printed :=
  let describe (entry : String × Choice) : Printed :=
    .line ("  --" ++ entry.1 ++ (if entry.2.takesValue then " <VALUE>" else "")).toList
  printUsage colours ++ .blank :: Choice.longNames.map describe

def report {σ : Type} (databases : Databases σ) (surroundings : Surroundings) : Order → Report
  | perform invocation => invocation.perform databases surroundings
  | help => ⟨printHelp surroundings.colours, 0⟩
  | version => ⟨[.line "sqlscript 0.1.0".toList], 0⟩
  | rejected =>
    ⟨[.errorLine "sqlscript: these arguments cannot be used; try sqlscript --help".toList], 2⟩

end Order

end Batchwise
