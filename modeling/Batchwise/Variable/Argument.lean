import Batchwise.Variable.Bindings

namespace Batchwise

/-! Variables given as arguments, either as one argument `name=value` or as two
arguments `name` and `value`. Arguments are read from left to right: one that
holds an equals sign is split at the first of them, and one that holds none
takes whatever argument follows as its value. -/

inductive ArgumentFault where
  | missingName (argument : List Char)
  | missingValue (name : List Char)
  deriving DecidableEq, Repr

def ArgumentFault.message : ArgumentFault → String
  | missingName argument => "Missing variable name in '" ++ String.ofList argument ++ "'"
  | missingValue name =>
    "Missing value for scripting variable '" ++ String.ofList name ++ "'"

def assignments : List (List Char) → Except ArgumentFault (List (List Char × List Char))
  | [] => .ok []
  | argument :: rest =>
    if '=' ∈ argument then
      let name := argument.takeWhile (· ≠ '=')
      let value := (argument.dropWhile (· ≠ '=')).drop 1
      if name = [] then .error (.missingName argument)
      else (assignments rest).map ((name, value) :: ·)
    else
      match rest with
      | [] => .error (.missingValue argument)
      | value :: rest => (assignments rest).map ((argument, value) :: ·)

def readArguments (arguments : List (List Char)) : Except ArgumentFault Bindings :=
  (assignments arguments).map Bindings.ofList

end Batchwise
