namespace Batchwise

def pieces (separator : Char) : List Char → List (List Char)
  | [] => [[]]
  | character :: rest =>
    if character = separator then [] :: pieces separator rest
    else
      match pieces separator rest with
      | piece :: following => (character :: piece) :: following
      | [] => [[character]]

example : pieces '.' "a..b".toList = [['a'], [], ['b']] := rfl

def splitFirst (separator : Char) (text : List Char) : List Char × Option (List Char) :=
  let before := text.takeWhile (· ≠ separator)
  (before, (text.drop before.length).tail?)

def splitLast (separator : Char) (text : List Char) : Option (List Char) × List Char :=
  let (behind, before) := splitFirst separator text.reverse
  (before.map List.reverse, behind.reverse)

example : splitLast '@' "a@b@c".toList = (some "a@b".toList, ['c']) := rfl

end Batchwise
