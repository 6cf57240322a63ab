import Referencing.Record.Creator
import Referencing.Record.Item

namespace Referencing

-- A bibliographic record as it was entered, before any of its values is laid
-- out.
structure Resource where
  id : Text := []
  type : Text := []
  values : Item := .empty
  creatorLists : Dict CreatorList := Dict.empty
  deriving DecidableEq

namespace Resource

-- The creators of a field, if there are any.
def creators? (resource : Resource) (field : Text) : Option CreatorList :=
  (resource.creatorLists.get? field).filter (· ≠ [])

-- The creators a resource is known by: its authors, or else its editors.
def primaryCreators? (resource : Resource) : Option CreatorList :=
  (resource.creators? "creator1".toList).or (resource.creators? "creator2".toList)

def year? (resource : Resource) : Option Text :=
  resource.values.get? "year1".toList

def title? (resource : Resource) : Option Text :=
  resource.values.get? "title".toList

end Resource

def Item.form : Form Item where
  read dialect tree := ((Form.dict .text).read dialect tree).map Item.mk
  write item := (Form.dict .text).write item.stored

def Resource.fields : List (Field Resource) :=
  [.always "id" .text (·.id) (fun value resource => { resource with id := value }),
    .always "type" .text (·.type) (fun value resource => { resource with type := value }),
    .always "fields" Item.form (·.values) (fun value resource => { resource with values := value }),
    .always "creators" (.dict CreatorList.form) (·.creatorLists)
      (fun value resource => { resource with creatorLists := value })]

def Resource.form : Form Resource :=
  .record fields {}

end Referencing
