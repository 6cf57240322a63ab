import Referencing.Data.Double
import Referencing.Data.Tree
import Referencing.Text.Numeral

namespace Referencing

-- A scalar of YAML. What an unquoted one means depends on what it is read as.
inductive YamlScalar
  | plain (text : Text)
  | quoted (text : Text)
  deriving DecidableEq, Repr

abbrev Yaml := Tree YamlScalar YamlScalar

-- A scalar whose meaning has been settled. Equal values are the same key, in
-- whatever way they are written.
inductive YamlValue
  | null
  | flag (value : Bool)
  | integer (value : Int)
  | double (value : Double)
  | text (value : Text)
  deriving DecidableEq, Repr

namespace YamlScalar

open Text

def text : YamlScalar → Text
  | .plain text => text
  | .quoted text => text

-- Nothing at all where a value is expected.
def void : YamlScalar := .plain []

def isNullWord (text : Text) : Bool :=
  text ∈ ["null", "Null", "NULL", "~"].map String.toList

def flag? (text : Text) : Option Bool :=
  if text ∈ ["true", "True", "TRUE"].map String.toList then some true
  else if text ∈ ["false", "False", "FALSE"].map String.toList then some false
  else none

-- Digits that begin with a superfluous zero are not a number.
private def isPadded (digits : Text) : Bool :=
  digits.head? = some '0' && digits.length ≠ 1 && digits.all isDigit

private def radixDigits? (bound : Nat) (digits : Text) : Option Nat :=
  if digits = [] then none
  else
    digits.foldlM (fun value c =>
      match hexValue? c with
      | some digit => if digit < bound then some (bound * value + digit) else none
      | none => none) 0

private def magnitude? (text : Text) : Option Nat :=
  match text with
  | '0' :: 'x' :: digits => radixDigits? 16 digits
  | '0' :: 'o' :: digits => radixDigits? 8 digits
  | '0' :: 'b' :: digits => radixDigits? 2 digits
  | _ => if isPadded text then none else radixDigits? 10 text

def natural? (text : Text) : Option Nat :=
  magnitude? (if text.head? = some '+' then text.tail else text)

def integer? : Text → Option Int
  | '-' :: rest => (magnitude? rest).map Int.negOfNat
  | text => (natural? text).map Int.ofNat

-- The number of double precision nearest to a decimal fraction, which must not
-- be padded like one without a point must not.
def double? (text : Text) : Option Double :=
  let negative := text.head? = some '-'
  let unsigned := if negative || text.head? = some '+' then text.tail else text
  if unsigned ∈ [".inf", ".Inf", ".INF"].map String.toList then some (.infinite negative)
  else if text ∈ [".nan", ".NaN", ".NAN"].map String.toList then some .undefined
  else if isPadded unsigned then none
  else (Decimal.parse? unsigned).bind (Double.ofDecimal? negative)

-- Whether a number fits into as many bits: from the bound on it does not, and
-- negative ones go half as far.
private def fits (bound : Nat) : Int → Bool
  | .ofNat value => value < bound
  | .negSucc value => value < bound / 2

-- What an unquoted text stands for when nothing says what is expected. A number
-- of more than 64 bits is refused, and one of more than 128 is no whole number.
private def meaning? (text : Text) : Option YamlValue :=
  match flag? text, (integer? text).filter (fits (largeBound * largeBound)) with
  | some value, _ => some (.flag value)
  | none, some value => if fits largeBound value then some (.integer value) else none
  | none, none => some (((double? text).map .double).getD (.text text))

def typed? : YamlScalar → Option YamlValue
  | .quoted text => some (.text text)
  | .plain text => if text = [] || isNullWord text then some .null else meaning? text

end YamlScalar

-- YAML whose scalars have been given types. Keys have types too.
abbrev TypedYaml := Tree YamlValue YamlValue

namespace Yaml

def void : Yaml := .leaf .void

mutual

-- A mapping must not have a key twice once its keys have types, and collections
-- are nested at most `depth` times.
def typed? (depth : Nat) : Yaml → Option TypedYaml
  | .leaf scalar => scalar.typed?.map .leaf
  | .list items =>
    match depth with
    | 0 => none
    | depth + 1 => (typedItems? depth items).map .list
  | .mapping entries =>
    match depth with
    | 0 => none
    | depth + 1 => do
      let typed ← typedEntries? depth entries
      if (typed.map (·.1)).Nodup then some (.mapping typed) else none

def typedItems? (depth : Nat) : List Yaml → Option (List TypedYaml)
  | [] => some []
  | item :: rest => do
    let typed ← typed? depth item
    let others ← typedItems? depth rest
    some (typed :: others)

def typedEntries? (depth : Nat) : List (YamlScalar × Yaml) → Option (List (YamlValue × TypedYaml))
  | [] => some []
  | (key, value) :: rest => do
    let key ← key.typed?
    let typed ← typed? depth value
    let others ← typedEntries? depth rest
    some ((key, typed) :: others)

end

-- How deep plain data can be.
def depthLimit : Nat := 128

end Yaml

end Referencing
