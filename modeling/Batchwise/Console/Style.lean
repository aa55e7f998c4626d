namespace Batchwise

/-! Coloured text for a terminal. A style is switched on in front of a text and
off behind it. Where the text itself switches styles off, the style is switched
on again. -/

inductive Style where
  | red
  | green
  | yellow
  | cyan
  | white
  | faint
  | boldRed
  | boldGreen
  | boldYellow
  | boldCyan
  | boldWhite
  deriving DecidableEq, Repr

namespace Style

def code : Style → String
  | red => "31"
  | green => "32"
  | yellow => "33"
  | cyan => "36"
  | white => "37"
  | faint => "2"
  | boldRed => "1;31"
  | boldGreen => "1;32"
  | boldYellow => "1;33"
  | boldCyan => "1;36"
  | boldWhite => "1;37"

def switchOn (style : Style) : List Char :=
  ['\x1b', '['] ++ style.code.toList ++ ['m']

def switchOff : List Char :=
  ['\x1b', '[', '0', 'm']

def switchOnAgain (style : Style) : List Char → List Char
  | '\x1b' :: '[' :: '0' :: 'm' :: rest => switchOff ++ style.switchOn ++ switchOnAgain style rest
  | character :: rest => character :: switchOnAgain style rest
  | [] => []

def paint (style : Style) (colours : Bool) (text : List Char) : List Char :=
  if colours then style.switchOn ++ style.switchOnAgain text ++ switchOff else text

end Style

end Batchwise
