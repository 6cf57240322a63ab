import Referencing.Data.Dict
import Referencing.Template.Affix

namespace Referencing

namespace Template

-- Two independent texts around the fields from `first` up to `stop`. They are
-- attached to the first and last of these fields that is printed.
structure Pair where
  opening : Text
  openingAlternative : Option Text
  closing : Text
  closingAlternative : Option Text
  first : Nat
  stop : Nat
  deriving DecidableEq, Repr

-- What is printed instead of the pair when none of its fields is.
def Pair.alternative (pair : Pair) : Text :=
  pair.openingAlternative.getD [] ++ pair.closingAlternative.getD []

end Template

open Template

-- A compiled template. The fields keep their order in the template.
structure Template where
  fields : Dict FieldSpec
  preliminary : Option Text
  ultimate : Option Text
  pairs : List Pair
  diagnostics : List Diagnostic
  deriving DecidableEq

namespace Template

def blank : Template := ⟨Dict.empty, none, none, [], []⟩

def fieldNames (template : Template) : List Text :=
  template.fields.keys

def isEmpty (template : Template) : Bool :=
  template.fields.entries.isEmpty && template.preliminary.isNone && template.ultimate.isNone

end Template

end Referencing
