import Referencing.Text.Numeral

namespace Referencing

-- An unsigned decimal: its digits before and after the point, multiplied by ten
-- `up` times and divided by ten `down` times.
structure Decimal where
  whole : Text
  part : Text
  up : Nat := 0
  down : Nat := 0
  deriving DecidableEq, Repr

namespace Decimal

open Text

def digits (decimal : Decimal) : Text :=
  decimal.whole ++ decimal.part

-- The digits of an exponent, and whether it is negative.
private def exponent? : Text → Option (Bool × Nat)
  | [] => some (false, 0)
  | c :: rest =>
    if c = 'e' || c = 'E' then
      let digits := if rest.head? = some '+' || rest.head? = some '-' then rest.tail else rest
      if digits ≠ [] && digits.all isDigit then
        some (rest.head? = some '-', numeralValue digits)
      else none
    else none

-- The point may stand before all digits or after them, but there is a digit.
def parse? (text : Text) : Option Decimal :=
  let whole := text.takeWhile isDigit
  let rest := text.dropWhile isDigit
  let (part, rest) :=
    match rest with
    | '.' :: rest => (rest.takeWhile isDigit, rest.dropWhile isDigit)
    | rest => ([], rest)
  match exponent? rest with
  | none => none
  | some (negative, exponent) =>
    if whole ++ part = [] then none
    else if negative then some { whole, part, down := exponent }
    else some { whole, part, up := exponent }

end Decimal

end Referencing
