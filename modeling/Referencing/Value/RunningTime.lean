import Referencing.Style.Values
import Referencing.Text.Blank
import Referencing.Text.Numeral

namespace Referencing.Value

open Text

private def counted (n : Nat) (unit : Text) : Text :=
  ofNat n ++ ' ' :: unit ++ (if n = 1 then [] else ['s'])

-- Hours and minutes in words; a part that is zero is left out unless both are.
def durationWords (hours minutes : Nat) (joint : Text) : Text :=
  if hours = 0 then counted minutes "minute".toList
  else if minutes = 0 then counted hours "hour".toList
  else counted hours "hour".toList ++ joint ++ counted minutes "minute".toList

-- A running time is entered in minutes; one that is no number is printed as it
-- is.
def layoutRunningTime (form : RunningTimeForm) (entered : Text) : Text :=
  match smallNumeral? (trim entered) with
  | none => entered
  | some total =>
    let hours := total / 60
    let minutes := total % 60
    match form with
    | .apostrophe => ofNat hours ++ '\x27' :: twoDigits minutes ++ ['"']
    | .colon => ofNat hours ++ ':' :: twoDigits minutes
    | .comma => ofNat hours ++ ',' :: twoDigits minutes
    | .words => durationWords hours minutes [',', ' ']
    | .wordsAnd => durationWords hours minutes " and ".toList

end Referencing.Value
