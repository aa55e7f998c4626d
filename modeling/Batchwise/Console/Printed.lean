namespace Batchwise

/-! What a program prints. Each entry ends with a line break of its own. -/

inductive Stream where
  | output
  | error
  deriving DecidableEq, Repr

structure Printed where
  stream : Stream
  text : List Char
  deriving DecidableEq, Repr

namespace Printed

def line (text : List Char) : Printed := ⟨.output, text⟩

def blank : Printed := line []

def errorLine (text : List Char) : Printed := ⟨.error, text⟩

def toText (stream : Stream) (printed : List Printed) : List Char :=
  (printed.filter (·.stream = stream)).flatMap fun entry => entry.text ++ ['\n']

end Printed

structure Report where
  printed : List Printed
  exitCode : Nat
  deriving DecidableEq, Repr

namespace Report

/-- The end of a program that is to print what cannot be printed. -/
def brokenOff : Report :=
  ⟨[.errorLine "Formatting argument out of range".toList], 101⟩

def behind (printed : List Printed) (report : Report) : Report :=
  { report with printed := printed ++ report.printed }

end Report

/-- The lines of a text, without their terminators. A carriage return belongs to
a terminator only in front of a line feed. -/
def textLines : List Char → List (List Char)
  | [] => []
  | '\n' :: rest => [] :: textLines rest
  | '\r' :: '\n' :: rest => [] :: textLines rest
  | [character] => [[character]]
  | character :: rest =>
    match textLines rest with
    | line :: following => (character :: line) :: following
    | [] => [[character]]

example : textLines ['a', '\r', '\n', '\n', 'b', '\r'] = [['a'], [], ['b', '\r']] := by decide

end Batchwise
