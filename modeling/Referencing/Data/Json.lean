import Referencing.Data.Tree
import Referencing.Text.Basic

namespace Referencing

-- A number of JSON. Only natural numbers mean something to this library; of any
-- other one the literal is kept.
inductive JsonNumber
  | natural (value : Nat)
  | other (literal : Text)
  deriving DecidableEq, Repr

inductive JsonLeaf
  | null
  | bool (value : Bool)
  | number (value : JsonNumber)
  | text (value : Text)
  -- A string that is no text, since half of a surrogate pair is missing; what
  -- stands between its quotes is kept.
  | unpaired (literal : Text)
  deriving DecidableEq, Repr

abbrev Json := Tree Text JsonLeaf

namespace Json

def null : Json := .leaf .null

def bool (value : Bool) : Json := .leaf (.bool value)

def natural (value : Nat) : Json := .leaf (.number (.natural value))

def text (value : Text) : Json := .leaf (.text value)

def array (items : List Json) : Json := .list items

def object (entries : List (Text × Json)) : Json := .mapping entries

end Json

end Referencing
