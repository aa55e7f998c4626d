import Batchwise.Console.Table
import Batchwise.Pass.Parsed
import Batchwise.Run.Event

namespace Batchwise

/-! Showing the batches of a script without running them. -/

namespace Batch

def toJson (batch : Batch) : Json :=
  .object [("text".toList, .string batch.text),
    ("start_line".toList, .number (toString batch.start.line)),
    ("start_column".toList, .number (toString batch.start.column)),
    ("exec_count".toList, .number (toString batch.count))]

def print (colours : Bool) (number : Nat) (batch : Batch) : List Printed :=
  let title := "Batch " ++ toString number
  let place := "(line " ++ toString batch.start.line ++ ", column "
    ++ toString batch.start.column ++ ")"
  let count := "× " ++ toString batch.count
  let heading := Style.boldGreen.paint colours title.toList ++ [' ']
    ++ Style.faint.paint colours place.toList ++ [' ']
    ++ Style.yellow.paint colours count.toList
  let indented (style : Style) (text : List Char) : Printed :=
    .line (' ' :: ' ' :: style.paint colours text)
  let skipped := "(skipped: exec count is not positive)".toList
  .line heading :: (textLines batch.text).map (indented .white)
    ++ (if batch.isExecutable then [] else [indented .yellow skipped])
    ++ [.blank]

end Batch

namespace Parsed

def printBatches (colours : Bool) (parsed : Parsed) : List Printed :=
  (parsed.batches.mapIdx fun index batch => batch.print colours (index + 1)).flatten

def printFault (colours : Bool) (parsed : Parsed) : List Printed :=
  match parsed.fault with
  | none => []
  | some fault =>
    [.errorLine (Style.boldRed.paint colours "Parse Error:".toList ++ [' ']
      ++ fault.toError.message.toList)]

def exitCode (parsed : Parsed) : Nat :=
  (if parsed.fault.isSome then Code.parseError else Code.success).exitCode

end Parsed

def showBatches (format : Format) (colours : Bool) (options : Options) (script : List Char) :
    Report :=
  let parsed := parseScript script options
  let shown :=
    match format with
    | .json => [.line (Json.pretty 0 (.array (parsed.batches.map Batch.toJson)))]
    | .table =>
      parsed.printBatches colours
        ++ [.line (Style.cyan.paint colours (toString parsed.batches.length).toList
          ++ " batch(es)".toList)]
  ⟨parsed.printFault colours ++ shown, parsed.exitCode⟩

def Variable.print (colours : Bool) (entry : Variable) : Printed :=
  let lock := if entry.overridable then "" else " (locked)"
  .line (' ' :: ' ' :: Style.white.paint colours entry.name ++ " = ".toList
    ++ Style.yellow.paint colours entry.value ++ Style.faint.paint colours lock.toList)

def printHeading (colours : Bool) (mode : Mode) : List Printed :=
  [.line (Style.boldCyan.paint colours "SQL Script Explanation".toList), .blank,
    .line (Style.faint.paint colours "Mode:".toList ++ [' ']
      ++ Style.cyan.paint colours mode.name.toList), .blank]

def Context.print (colours : Bool) (context : Context) : List Printed :=
  let entries := context.store.sorted
  let listing : List Printed :=
    if entries.isEmpty then
      [.line (' ' :: ' ' :: Style.faint.paint colours "(none)".toList)]
    else entries.map (Variable.print colours)
  let policy := (toString context.continueOnError).toList
  .line (Style.boldGreen.paint colours "Variables:".toList) :: listing
    ++ [.blank, .line (Style.faint.paint colours "Continue on error:".toList ++ [' ']
      ++ Style.cyan.paint colours policy)]

def explainScript (colours : Bool) (options : Options) (script : List Char) : Report :=
  let parsed := parseScript script options
  ⟨printHeading colours options.mode ++ parsed.printBatches colours
    ++ parsed.printFault colours ++ parsed.context.print colours,
    parsed.exitCode⟩

end Batchwise
