import Referencing.Data.Json
import Referencing.Data.Yaml

namespace Referencing

-- How a notation is understood where a value of a certain kind is expected.
structure Dialect (κ σ : Type) where
  key? : κ → Option Text
  text? : σ → Option Text
  flag? : σ → Option Bool
  natural? : σ → Option Nat
  -- An option that is not given.
  isAbsent : σ → Bool
  -- Nothing, where a list or mapping is expected, is an empty one.
  isVoid : σ → Bool
  -- Whether the name of a choice may be written as a mapping from it to null.
  boxedChoice : Bool
  -- Whether a record may be written as the list of its fields.
  listedRecord : Bool

namespace JsonLeaf

def text? : JsonLeaf → Option Text
  | .text value => some value
  | _ => none

def flag? : JsonLeaf → Option Bool
  | .bool value => some value
  | _ => none

-- Counts have 64 bits.
def natural? : JsonLeaf → Option Nat
  | .number (.natural value) => if value < Text.largeBound then some value else none
  | _ => none

end JsonLeaf

namespace YamlValue

def text? : YamlValue → Option Text
  | .text value => some value
  | _ => none

def flag? : YamlValue → Option Bool
  | .flag value => some value
  | _ => none

def natural? : YamlValue → Option Nat
  | .integer (.ofNat value) => some value
  | _ => none

end YamlValue

namespace Dialect

def json : Dialect Text JsonLeaf where
  key? := some
  text? := JsonLeaf.text?
  flag? := JsonLeaf.flag?
  natural? := JsonLeaf.natural?
  isAbsent leaf := leaf = .null
  isVoid _ := false
  boxedChoice := true
  listedRecord := true

-- An unquoted scalar is whatever is expected, if it can be read as that.
def yaml : Dialect YamlScalar YamlScalar where
  key? scalar := some scalar.text
  text? scalar := some scalar.text
  flag?
    | .plain text => YamlScalar.flag? text
    | .quoted _ => none
  natural?
    | .plain text => (YamlScalar.natural? text).filter (· < Text.largeBound)
    | .quoted _ => none
  isAbsent
    | .plain text => text = [] || YamlScalar.isNullWord text
    | .quoted _ => false
  isVoid scalar := scalar = .void
  boxedChoice := false
  listedRecord := false

-- Once scalars have types a number is no text.
def typedYaml : Dialect YamlValue YamlValue where
  key? := YamlValue.text?
  text? := YamlValue.text?
  flag? := YamlValue.flag?
  natural? := YamlValue.natural?
  isAbsent value := value = .null
  isVoid value := value = .null
  boxedChoice := false
  listedRecord := false

end Dialect

end Referencing
