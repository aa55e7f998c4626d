import Batchwise.Memory.Token

namespace Batchwise.Memory

/-! Why a statement is not executed. -/

inductive Failure where
  | noTable (name : List Char)
  | noColumn (name : List Char)
  | tableExists (written : List Char)
  | wrongWidth (table : List Char) (columns values : Nat)
  | columnTwice (name : List Char)
  | unknownOption (name : List Char)
  | unevenRows
  | noTables
  | notModifiable (table : List Char)
  | reservedName (name : List Char)
  /-- A hexadecimal number has more than 64 bits. -/
  | oversized (number : List Char)
  | parameterNumber
  | notDatabase
  | readOnly
  | unexpected (token : List Char)
  | unknownToken (token : List Char)
  | incomplete
  deriving DecidableEq, Repr

def Failure.code : Failure → Nat
  | notDatabase => 26
  | readOnly => 8
  | _ => 1

def Failure.message (failure : Failure) : String :=
  let cause :=
    match failure with
    | noTable name => "no such table: " ++ String.ofList name
    | noColumn name => "no such column: " ++ String.ofList name
    | tableExists written => "table " ++ String.ofList written ++ " already exists"
    | wrongWidth table columns values =>
      "table " ++ String.ofList table ++ " has " ++ toString columns ++ " columns but "
        ++ toString values ++ " values were supplied"
    | columnTwice name => "duplicate column name: " ++ String.ofList name
    | unknownOption name => "unknown table option: " ++ String.ofList name
    | unevenRows => "all VALUES must have the same number of terms"
    | noTables => "no tables specified"
    | notModifiable table => "table " ++ String.ofList table ++ " may not be modified"
    | reservedName name => "object name reserved for internal use: " ++ String.ofList name
    | oversized number => "hex literal too big: " ++ String.ofList number
    | parameterNumber => "variable number must be between ?1 and ?32766"
    | notDatabase => "file is not a database"
    | readOnly => "attempt to write a readonly database"
    | unknownToken token => "unrecognized token: \"" ++ String.ofList token ++ "\""
    | incomplete => "incomplete input"
    | unexpected token => "near \"" ++ String.ofList token ++ "\": syntax error"
  "error returned from database: (code: " ++ toString failure.code ++ ") " ++ cause

def Failure.ofTokens : List Token → Failure
  | [] => .incomplete
  | token :: _ =>
    if token.kind = .unknown then .unknownToken token.source else .unexpected token.source

end Batchwise.Memory
