import Referencing.Data.Dict
import Referencing.Data.Double
import Referencing.Data.Json

namespace Referencing.Json

open Text

-- The number that the first digits make, as many as fit into 64 bits, and how
-- many these are.
private def significand (value count : Nat) : Text → Nat × Nat
  | [] => (value, count)
  | c :: rest =>
    let next := 10 * value + digitValue c
    if next < largeBound then significand next (count + 1) rest else (value, count)

-- Whether a decimal is a number of double precision. It is taken as its
-- significand, scaled by a power of ten that is itself such a number.
def isInRange (decimal : Decimal) : Bool :=
  let (value, count) := significand 0 0 decimal.digits
  let up := decimal.up + decimal.whole.length
  let down := decimal.down + count
  value = 0 || up ≤ down || (up - down ≤ 308 &&
    Double.rounded (Double.rounded value 1 * Double.rounded (Nat.pow 10 (up - down)) 1) 1 <
      Double.limit)

private def unsigned (literal : Text) : Text :=
  if literal.head? = some '-' then literal.tail else literal

private def plainLeaf? : JsonLeaf → Option JsonLeaf
  | .number number =>
    let literal :=
      match number with
      | .natural value => ofNat value
      | .other literal => unsigned literal
    if (Decimal.parse? literal).any isInRange then some (.number number) else none
  | .unpaired _ => none
  | leaf => some leaf

mutual

-- Plain data holds one value for each key: of a key that comes again the last
-- value is kept, at the place of the first. Its numbers are in range, and its
-- collections are nested at most `depth` times.
def plain? (depth : Nat) : Json → Option Json
  | .leaf value => (plainLeaf? value).map .leaf
  | .list items =>
    match depth with
    | 0 => none
    | depth + 1 => (plainItems? depth items).map .list
  | .mapping entries =>
    match depth with
    | 0 => none
    | depth + 1 => (plainEntries? depth entries).map fun entries =>
      .mapping (Dict.ofList entries).entries

def plainItems? (depth : Nat) : List Json → Option (List Json)
  | [] => some []
  | item :: rest => do
    let item ← plain? depth item
    let others ← plainItems? depth rest
    some (item :: others)

def plainEntries? (depth : Nat) : List (Text × Json) → Option (List (Text × Json))
  | [] => some []
  | (key, value) :: rest => do
    let value ← plain? depth value
    let others ← plainEntries? depth rest
    some ((key, value) :: others)

end

-- How deep plain data can be.
def depthLimit : Nat := 127

end Referencing.Json
