import Referencing.Style.Creators
import Referencing.Style.Values

namespace Referencing

-- Puts editors where the authors would stand when there are none. The template
-- has the single field `editor`.
structure EditorSwitch where
  template : Text := "editor ^(ed.)^(eds.)^".toList
  deriving DecidableEq, Repr

structure BibliographyOptions where
  -- For the first creator field, and for the others.
  primary : Bundle := {}
  other : Bundle := {}
  titleCase : TitleCase := .asEntered
  dates : DateOptions := {}
  editionForm : EditionForm := .cardinal
  pageForm : PageForm := .asEntered
  runningTimeForm : RunningTimeForm := .apostrophe
  editorSwitch : Option EditorSwitch := none
  -- By resource type.
  templates : Dict Text := Dict.empty
  -- The type whose template serves for types that have none.
  fallback : Option Text := none
  -- By resource type and creator field.
  rewrites : Dict (Dict Rewrite) := Dict.empty
  -- The field names of resource types that do not use the standard ones.
  fieldNames : Dict (List Text) := Dict.empty
  deriving DecidableEq

structure FootnoteOptions where
  primary : Bundle := {}
  other : Bundle := {}
  templates : Dict Text := Dict.empty
  deriving DecidableEq

def EditorSwitch.fields : List (Field EditorSwitch) :=
  [.always "template" .text (·.template) (fun value options => { options with template := value })]

def EditorSwitch.form : Form EditorSwitch :=
  .record fields {}

def BibliographyOptions.fields : List (Field BibliographyOptions) :=
  [.always "primary" Bundle.form (·.primary)
      (fun value options => { options with primary := value }),
    .always "other" Bundle.form (·.other) (fun value options => { options with other := value }),
    .always "title-capitalization" TitleCase.form (·.titleCase)
      (fun value options => { options with titleCase := value }),
    .always "dates" DateOptions.form (·.dates)
      (fun value options => { options with dates := value }),
    .always "edition-format" EditionForm.form (·.editionForm)
      (fun value options => { options with editionForm := value }),
    .always "page-format" PageForm.form (·.pageForm)
      (fun value options => { options with pageForm := value }),
    .always "running-time-format" RunningTimeForm.form (·.runningTimeForm)
      (fun value options => { options with runningTimeForm := value }),
    .optional "editor-switch" EditorSwitch.form (·.editorSwitch)
      (fun value options => { options with editorSwitch := value }),
    .always "templates" (.dict .text) (·.templates)
      (fun value options => { options with templates := value }),
    .optional "fallback" .text (·.fallback)
      (fun value options => { options with fallback := value }),
    .sparing "rewrites" (.dict (.dict Rewrite.form)) Dict.isEmpty (·.rewrites)
      (fun value options => { options with rewrites := value }),
    .sparing "fields" (.dict (.list .text)) Dict.isEmpty (·.fieldNames)
      (fun value options => { options with fieldNames := value })]

def BibliographyOptions.form : Form BibliographyOptions :=
  .record fields {}

def FootnoteOptions.fields : List (Field FootnoteOptions) :=
  [.always "primary" Bundle.form (·.primary)
      (fun value options => { options with primary := value }),
    .always "other" Bundle.form (·.other) (fun value options => { options with other := value }),
    .always "templates" (.dict .text) (·.templates)
      (fun value options => { options with templates := value })]

def FootnoteOptions.form : Form FootnoteOptions :=
  .record fields {}

-- The rewrite for one creator field of one resource type.
def BibliographyOptions.rewrite? (options : BibliographyOptions) (type field : Text) :
    Option Rewrite :=
  (options.rewrites.get? type).bind (·.get? field)

end Referencing
