import Referencing.Record.Resource

namespace Referencing

-- One place in a document where a resource is cited. `textBefore` is the prose
-- since the citation before; when it is blank the two form a group.
structure Occurrence where
  id : Text := []
  values : Item := .empty
  textBefore : Text := []
  preText : Option Text := none
  postText : Option Text := none
  -- Taken from the library when they are empty.
  resourceType : Text := []
  creatorIds : Text := []
  deriving DecidableEq

def Occurrence.pages? (occurrence : Occurrence) : Option Text :=
  occurrence.values.get? "pages".toList

-- The citations of a document, and the prose after the last one.
structure Document where
  citations : List Occurrence := []
  tail : Text := []
  deriving DecidableEq

def Occurrence.fields : List (Field Occurrence) :=
  [.always "id" .text (·.id) (fun value occurrence => { occurrence with id := value }),
    .always "item" Item.form (·.values)
      (fun value occurrence => { occurrence with values := value }),
    .always "text-before" .text (·.textBefore)
      (fun value occurrence => { occurrence with textBefore := value }),
    .optional "pre-text" .text (·.preText)
      (fun value occurrence => { occurrence with preText := value }),
    .optional "post-text" .text (·.postText)
      (fun value occurrence => { occurrence with postText := value }),
    .always "resource-type" .text (·.resourceType)
      (fun value occurrence => { occurrence with resourceType := value }),
    .always "creator-ids" .text (·.creatorIds)
      (fun value occurrence => { occurrence with creatorIds := value })]

def Occurrence.form : Form Occurrence :=
  .record fields {}

def Document.fields : List (Field Document) :=
  [.always "citations" (.list Occurrence.form) (·.citations)
      (fun value document => { document with citations := value }),
    .always "tail" .text (·.tail) (fun value document => { document with tail := value })]

-- A bare list is the list of citations.
def Document.form : Form Document where
  read dialect
    | .list items =>
      (items.mapM (Occurrence.form.read dialect)).map fun citations => ⟨citations, []⟩
    | tree => (Form.record fields {}).read dialect tree
  write document := (Form.record fields {}).write document

end Referencing
