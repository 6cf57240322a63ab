import Referencing.Citation.Document

namespace Referencing.Citation

open Text Markup

-- What a medium does with neutral text may be any function.
def Stretch.convert (exporter : Text → Text) : Stretch → Text
  | .prose text => text
  | .markup text => exporter text

def Cited.convert (exporter : Text → Text) (cited : Cited) : Cited :=
  { cited with text := exporter cited.text }

def Note.convert (exporter : Text → Text) (note : Note) : Note :=
  { note with text := exporter note.text }

def Draft.convert (exporter : Text → Text) (draft : Draft) : Output where
  text := draft.stretches.flatMap (Stretch.convert exporter)
  citations := draft.citations.map (Cited.convert exporter)
  notes := draft.notes.map (Note.convert exporter)
  unknown := draft.unknown

theorem Stretch.export_eq_convert (format : Format) :
    Stretch.export format = Stretch.convert format.export := by
  funext stretch
  cases stretch <;> rfl

theorem Draft.export_eq_convert (draft : Draft) (format : Format) :
    draft.export format = draft.convert format.export := by
  simp only [Draft.export, Stretch.export_eq_convert]
  rfl

section Convert

variable {exporter : Text → Text}

theorem convert_noteLines (notes : List Note) :
    (noteLines notes).flatMap (Stretch.convert exporter) =
      join ['\n'] ((notes.map (Note.convert exporter)).map fun note =>
        ofNat note.number ++ ". ".toList ++ note.text) := by
  fun_induction noteLines notes with
  | case1 => rfl
  | case2 last => simp [noteLine, Stretch.convert, Note.convert, join]
  | case3 note rest hrest ih =>
    obtain ⟨next, rest, rfl⟩ := List.exists_cons_of_ne_nil hrest
    simp only [List.map_cons] at ih
    simp [noteLine, Stretch.convert, Note.convert, join, ih]

end Convert

end Referencing.Citation
