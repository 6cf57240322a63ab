import Referencing.Style.Creators
import Referencing.Style.Values

namespace Referencing

inductive CitationMode
  | inText
  | endnote
  deriving DecidableEq, Repr

-- How notes are numbered: every citation gets the next number, every resource
-- keeps its first one, or every citation gets a note of its own in which
-- repetitions are abbreviated.
inductive EndnoteStyle
  | incrementing
  | sameId
  | footnote
  deriving DecidableEq, Repr

-- Where the number that a resource keeps comes from.
inductive SameIdOrder
  | firstCitation
  | bibliography
  deriving DecidableEq, Repr

-- How works of the same creators and year are told apart.
inductive Ambiguity
  | yearLetter
  | template
  deriving DecidableEq, Repr

-- What points from the text to a note.
structure NoteMarker where
  firstChars : Text := []
  lastChars : Text := []
  superscript : Bool := true
  deriving DecidableEq, Repr

structure CitationOptions where
  mode : CitationMode := .inText
  endnoteStyle : EndnoteStyle := .incrementing
  sameIdOrder : SameIdOrder := .firstCitation
  creators : Bundle :=
    { firstOrder := .lastOnly, otherOrder := .lastOnly, lastSeparator := " and ".toList }
  titleCase : TitleCase := .asEntered
  pageForm : PageForm := .asEntered
  template : Text := "creator |year|: pages".toList
  -- When the first creator is named in the same sentence.
  followCreatorTemplate : Option Text := none
  -- Puts the locator next to that name.
  followCreatorPageSplit : Bool := false
  -- After another citation of the same creators in a group.
  consecutiveCreatorTemplate : Option Text := none
  -- When the resource has been cited before.
  subsequentTemplate : Option Text := none
  ambiguousTemplate : Option Text := none
  ibidTemplate : Option Text := none
  idemTemplate : Option Text := none
  opCitTemplate : Option Text := none
  -- By resource type.
  typeTemplates : Dict Text := Dict.empty
  firstChars : Text := ['(']
  lastChars : Text := [')']
  citationSeparator : Text := "; ".toList
  creatorSeparator : Text := ", ".toList
  ambiguity : Ambiguity := .yearLetter
  ambiguityIncludesTitle : Bool := false
  endnoteMarker : NoteMarker := {}
  deriving DecidableEq

def CitationMode.form : Form CitationMode :=
  .choice [("in-text", .inText), ("endnote", .endnote)]

def EndnoteStyle.form : Form EndnoteStyle :=
  .choice [("incrementing", .incrementing), ("same-id", .sameId), ("footnote", .footnote)]

def SameIdOrder.form : Form SameIdOrder :=
  .choice [("first-citation", .firstCitation), ("bibliography", .bibliography)]

def Ambiguity.form : Form Ambiguity :=
  .choice [("year-letter", .yearLetter), ("template", .template)]

def NoteMarker.fields : List (Field NoteMarker) :=
  [.always "first-chars" .text (·.firstChars)
      (fun value options => { options with firstChars := value }),
    .always "last-chars" .text (·.lastChars)
      (fun value options => { options with lastChars := value }),
    .always "superscript" .flag (·.superscript)
      (fun value options => { options with superscript := value })]

def NoteMarker.form : Form NoteMarker :=
  .record fields {}

def CitationOptions.fields : List (Field CitationOptions) :=
  [.always "mode" CitationMode.form (·.mode) (fun value options => { options with mode := value }),
    .always "endnote-style" EndnoteStyle.form (·.endnoteStyle)
      (fun value options => { options with endnoteStyle := value }),
    .always "same-id-order" SameIdOrder.form (·.sameIdOrder)
      (fun value options => { options with sameIdOrder := value }),
    .always "creators" Bundle.form (·.creators)
      (fun value options => { options with creators := value }),
    .always "title-capitalization" TitleCase.form (·.titleCase)
      (fun value options => { options with titleCase := value }),
    .always "page-format" PageForm.form (·.pageForm)
      (fun value options => { options with pageForm := value }),
    .always "template" .text (·.template) (fun value options => { options with template := value }),
    .optional "follow-creator-template" .text (·.followCreatorTemplate)
      (fun value options => { options with followCreatorTemplate := value }),
    .always "follow-creator-page-split" .flag (·.followCreatorPageSplit)
      (fun value options => { options with followCreatorPageSplit := value }),
    .optional "consecutive-creator-template" .text (·.consecutiveCreatorTemplate)
      (fun value options => { options with consecutiveCreatorTemplate := value }),
    .optional "subsequent-template" .text (·.subsequentTemplate)
      (fun value options => { options with subsequentTemplate := value }),
    .optional "ambiguous-template" .text (·.ambiguousTemplate)
      (fun value options => { options with ambiguousTemplate := value }),
    .optional "ibid-template" .text (·.ibidTemplate)
      (fun value options => { options with ibidTemplate := value }),
    .optional "idem-template" .text (·.idemTemplate)
      (fun value options => { options with idemTemplate := value }),
    .optional "op-cit-template" .text (·.opCitTemplate)
      (fun value options => { options with opCitTemplate := value }),
    .sparing "type-templates" (.dict .text) Dict.isEmpty (·.typeTemplates)
      (fun value options => { options with typeTemplates := value }),
    .always "first-chars" .text (·.firstChars)
      (fun value options => { options with firstChars := value }),
    .always "last-chars" .text (·.lastChars)
      (fun value options => { options with lastChars := value }),
    .always "consecutive-citation-sep" .text (·.citationSeparator)
      (fun value options => { options with citationSeparator := value }),
    .always "consecutive-creator-sep" .text (·.creatorSeparator)
      (fun value options => { options with creatorSeparator := value }),
    .always "ambiguity" Ambiguity.form (·.ambiguity)
      (fun value options => { options with ambiguity := value }),
    .always "ambiguity-includes-title" .flag (·.ambiguityIncludesTitle)
      (fun value options => { options with ambiguityIncludesTitle := value }),
    .always "endnote-marker" NoteMarker.form (·.endnoteMarker)
      (fun value options => { options with endnoteMarker := value })]

def CitationOptions.form : Form CitationOptions :=
  .record fields {}

end Referencing
