import Referencing.Data.Decimal

namespace Referencing

-- A number of double precision. A finite one is counted in units of the least
-- positive one, so that zero has no sign.
inductive Double
  | finite (units : Int)
  | infinite (negative : Bool)
  | undefined
  deriving DecidableEq, Repr

namespace Double

-- The whole number nearest to a ratio, and the even one of two.
def nearest (num den : Nat) : Nat :=
  let whole := num / den
  let remainder := num % den
  if den < 2 * remainder || (den = 2 * remainder && whole % 2 = 1) then whole + 1 else whole

-- The nearest whole number that has at most 53 significant binary digits.
def rounded (num den : Nat) : Nat :=
  let step := Nat.pow 2 ((num / den).log2 + 1 - 53)
  nearest num (den * step) * step

def unitsOfOne : Nat := Nat.pow 2 1074

-- The first power of two that is out of range.
def limit : Nat := Nat.pow 2 1024

-- The number nearest to a decimal. Decimals that are far too small or far too
-- large are told from the count of their digits.
def ofDecimal? (negative : Bool) (decimal : Decimal) : Option Double :=
  let mantissa := Text.numeralValue decimal.digits
  let size := (Text.ofNat mantissa).length
  let down := decimal.part.length + decimal.down
  let up := decimal.up
  if mantissa = 0 || size + up + 400 < down then some (.finite 0)
  else if down + 400 < size + up then none
  else
    let units := rounded (mantissa * Nat.pow 10 (up - down) * unitsOfOne) (Nat.pow 10 (down - up))
    if units < limit * unitsOfOne then
      some (.finite (if negative then Int.negOfNat units else Int.ofNat units))
    else none

end Double

end Referencing
