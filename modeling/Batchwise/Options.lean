import Batchwise.Text.Blank
import Batchwise.Variable.Bindings

namespace Batchwise

/-! The dialects of a script and what a caller may choose for it. -/

inductive Mode where
  | normal
  | sqlcmd
  | sqlcmdEx
  deriving DecidableEq, Repr

namespace Mode

def isScripting : Mode → Bool
  | normal => false
  | sqlcmd | sqlcmdEx => true

def name : Mode → String
  | normal => "normal"
  | sqlcmd => "sqlcmd"
  | sqlcmdEx => "sqlcmdex"

def all : List Mode := [normal, sqlcmd, sqlcmdEx]

def ofName? (name : List Char) : Option Mode :=
  all.find? (·.name.toList = name)

/-- The mode that a user names: blanks around the name and the case of ASCII
letters do not matter. The error is the name as it was compared. -/
def read (text : List Char) : Except (List Char) Mode :=
  let name := (trim text).map Char.toLower
  match ofName? name with
  | some mode => .ok mode
  | none => .error name

def unknownMessage (name : List Char) : String :=
  "Invalid mode '" ++ String.ofList name ++ "'. Expected: normal, sqlcmd or sqlcmdex"

end Mode

structure Options where
  mode : Mode := .sqlcmd
  bindings : Bindings := .empty
  continueOnError : Bool := true

end Batchwise
