import Referencing.Style.Bibliography
import Referencing.Style.Citation

namespace Referencing

structure StyleInfo where
  name : Option Text := none
  description : Option Text := none
  deriving DecidableEq, Repr

structure Style where
  info : StyleInfo := {}
  bibliography : BibliographyOptions := {}
  footnote : FootnoteOptions := {}
  citation : CitationOptions := {}
  deriving DecidableEq

def StyleInfo.fields : List (Field StyleInfo) :=
  [.optional "name" .text (·.name) (fun value info => { info with name := value }),
    .optional "description" .text (·.description)
      (fun value info => { info with description := value })]

-- As a list the information must be whole.
def StyleInfo.form : Form StyleInfo :=
  .recordWith false fields {}

def Style.fields : List (Field Style) :=
  [.always "info" StyleInfo.form (·.info) (fun value style => { style with info := value }),
    .always "bibliography" BibliographyOptions.form (·.bibliography)
      (fun value style => { style with bibliography := value }),
    .always "footnote" FootnoteOptions.form (·.footnote)
      (fun value style => { style with footnote := value }),
    .always "citation" CitationOptions.form (·.citation)
      (fun value style => { style with citation := value })]

def Style.form : Form Style :=
  .record fields {}

-- What a list of creators is laid out for.
inductive Role
  | primary
  | other
  | footnotePrimary
  | footnoteOther
  | citation
  deriving DecidableEq, Repr

-- Only entries of the bibliography are compared with the entry before.
def Role.isBibliographic : Role → Bool
  | .primary | .other => true
  | _ => false

def Style.bundle (style : Style) : Role → Bundle
  | .primary => style.bibliography.primary
  | .other => style.bibliography.other
  | .footnotePrimary => style.footnote.primary
  | .footnoteOther => style.footnote.other
  | .citation => style.citation.creators

end Referencing
