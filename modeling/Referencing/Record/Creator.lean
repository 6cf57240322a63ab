import Referencing.Data.Field
import Referencing.Text.Blank
import Referencing.Text.LetterCase

namespace Referencing

-- An author, editor, translator and so on. `initials` are those of names that
-- `given` does not spell out; the particle is a word such as "van".
structure Creator where
  surname : Text := []
  given : Text := []
  initials : Text := []
  particle : Text := []
  id : Option Text := none
  deriving DecidableEq, Repr

abbrev CreatorList := List Creator

open Text

-- The number that a creator is known by, or else the full name in lower case.
def Creator.identity (creator : Creator) : Text :=
  creator.id.getD (trim (lower creator.particle ++ ' ' :: lower creator.surname ++
    ' ' :: lower creator.given))

def CreatorList.key (creators : CreatorList) : Text :=
  join [','] (creators.map Creator.identity)

def Creator.fields : List (Field Creator) :=
  [.always "surname" .text (·.surname) (fun value creator => { creator with surname := value }),
    .always "firstname" .text (·.given) (fun value creator => { creator with given := value }),
    .always "initials" .text (·.initials) (fun value creator => { creator with initials := value }),
    .always "prefix" .text (·.particle) (fun value creator => { creator with particle := value }),
    .optional "id" .text (·.id) (fun value creator => { creator with id := value })]

def Creator.form : Form Creator :=
  .record fields {}

def CreatorList.form : Form CreatorList :=
  .list Creator.form

end Referencing
