import Referencing.Style.Values
import Referencing.Text.Blank
import Referencing.Text.Numeral

namespace Referencing.Value

open Text

def ordinalEnding (n : Nat) : Text :=
  if 11 ≤ n % 100 && n % 100 ≤ 13 then "th".toList
  else
    match n % 10 with
    | 1 => "st".toList
    | 2 => "nd".toList
    | 3 => "rd".toList
    | _ => "th".toList

def ordinal (n : Nat) : Text :=
  ofNat n ++ ordinalEnding n

def ordinalWords : List Text :=
  ["first", "second", "third", "fourth", "fifth", "sixth", "seventh", "eighth", "ninth", "tenth",
    "eleventh", "twelfth", "thirteenth", "fourteenth", "fifteenth", "sixteenth", "seventeenth",
    "eighteenth", "nineteenth", "twentieth"].map String.toList

-- Up to twenty there are words.
def ordinalWord (n : Nat) : Text :=
  match n with
  | 0 => ordinal 0
  | k + 1 => ordinalWords[k]?.getD (ordinal n)

-- An edition that is no number is printed as it is.
def layoutEdition (form : EditionForm) (edition : Text) : Text :=
  match smallNumeral? (trim edition) with
  | none => edition
  | some n =>
    match form with
    | .cardinal => ofNat n
    | .ordinal => ordinal n
    | .words => ordinalWord n

end Referencing.Value
