import Batchwise.Console.Table
import Batchwise.Run
import Batchwise.Text.Blank

namespace Batchwise

/-! Telling a run on a console. How much is told depends on the level; what is
told at one level is told at every higher one. Times are not part of the text:
a duration is shown as `<t>`. A run is told while it goes on, and so a result set
that cannot be printed is the end of the program. -/

inductive Verbosity where
  | silent
  /-- Errors only. -/
  | quiet
  /-- Adds result sets, warnings and a summary. -/
  | normal
  /-- Adds the starts and ends of batches. -/
  | verbose
  /-- Adds the texts of batches. -/
  | veryVerbose
  deriving DecidableEq, Repr

namespace Verbosity

def level : Verbosity → Nat
  | silent => 0
  | quiet => 1
  | normal => 2
  | verbose => 3
  | veryVerbose => 4

def ofName? (name : List Char) : Option Verbosity :=
  match String.ofList name with
  | "silent" => some silent
  | "quiet" => some quiet
  | "normal" => some normal
  | "verbose" => some verbose
  | "very-verbose" => some veryVerbose
  | _ => none

def tellFrom (least verbosity : Verbosity) (printed : List Printed) : List Printed :=
  if least.level ≤ verbosity.level then printed else []

end Verbosity

def elapsed : List Char := "<t>".toList

structure Console where
  verbosity : Verbosity
  format : Format
  colours : Bool
  deriving DecidableEq, Repr

namespace Console

def paint (console : Console) (style : Style) (text : String) : List Char :=
  style.paint console.colours text.toList

def printError (console : Console) (text : String) : List Printed :=
  [.errorLine (console.paint .boldRed "Error:" ++ [' '] ++ text.toList)]

def printMessage (console : Console) (kind : MessageKind) (text : String) : List Printed :=
  match kind with
  | .error => Verbosity.quiet.tellFrom console.verbosity (console.printError text)
  | .warning =>
    Verbosity.normal.tellFrom console.verbosity
      [.errorLine (console.paint .boldYellow "Warning:" ++ [' '] ++ text.toList)]
  | .info => Verbosity.normal.tellFrom console.verbosity [.line text.toList]

def printStart (console : Console) (execution : Execution) (sql : List Char) : List Printed :=
  let place := " " ++ toString execution.batch ++ " (" ++ toString execution.index ++ "/"
    ++ toString execution.count ++ ")"
  Verbosity.verbose.tellFrom console.verbosity
      [.line (console.paint .boldCyan "▶ Batch" ++ place.toList)]
    ++ Verbosity.veryVerbose.tellFrom console.verbosity
      [.line (Style.faint.paint console.colours (trimEnd sql))]

def printEnd (console : Console) (execution : Execution) (succeeded : Bool) : List Printed :=
  let mark := if succeeded then console.paint .green "✓" else console.paint .red "✗"
  let verb := if succeeded then " completed in " else " failed in "
  Verbosity.verbose.tellFrom console.verbosity
    [.line (mark ++ (" Batch " ++ toString execution.batch ++ verb).toList ++ elapsed)]

def printResult (console : Console) (result : ResultSet) : Option (List Printed) :=
  if Verbosity.normal.level ≤ console.verbosity.level then
    result.print console.format console.colours
  else some []

def printEvent (console : Console) : Event → Option (List Printed)
  | .started execution sql => some (console.printStart execution sql)
  | .result _ _ result => console.printResult result
  | .message kind text => some (console.printMessage kind text)
  | .ended execution error => some (console.printEnd execution error.isNone)

def printSummary (console : Console) (outcome : Outcome) : List Printed :=
  let mark :=
    if outcome.code ≠ .success then console.paint .red "✗"
    else if outcome.failed = 0 then console.paint .green "✓"
    else console.paint .yellow "⚠"
  let counts := mark ++ [' '] ++ console.paint .cyan (toString outcome.executed)
    ++ " execution(s) succeeded, ".toList ++ console.paint .cyan (toString outcome.failed)
    ++ " failed in ".toList ++ elapsed
  Verbosity.normal.tellFrom console.verbosity
    (.blank :: .line counts ::
      if outcome.code = .success then []
      else [.line (console.paint .faint "Result:" ++ [' '] ++ outcome.code.name.toList)])

def reportEvents (console : Console) : List Event → Report → Report
  | [], last => last
  | event :: rest, last =>
    match console.printEvent event with
    | none => .brokenOff
    | some printed => (console.reportEvents rest last).behind printed

def reportOutcome (console : Console) (outcome : Outcome) : Report :=
  console.reportEvents outcome.events
    ⟨console.printSummary outcome, outcome.code.exitCode⟩

end Console

end Batchwise
