import Referencing.Bibliography
import Referencing.Proofs.Citation.Writing

namespace Referencing.Bibliography

open Markup Citation

variable {source : Source} {exporter : Text → Text}

def Entry.convert (exporter : Text → Text) (entry : Entry) : Entry :=
  { entry with text := exporter entry.text }

-- A step of the loop that collects the entries, which are converted as they are made.
def writeEntry (source : Source) (exporter : Text → Text) (progress : Session × List Entry)
    (resource : Resource) : Session × List Entry :=
  let (session, entries) := progress
  match draftEntry source session resource with
  | (session, .ok text) => (session, entries ++ [⟨resource.id, exporter text⟩])
  | (session, .error _) => (session, entries)

def writeEntries (source : Source) (exporter : Text → Text) (session : Session)
    (resources : List Resource) : Session × List Entry :=
  resources.foldl (writeEntry source exporter)
    ({ session with history := session.history.resetCreators }, [])

theorem writeEntry_eq (progress : Session × List Entry) (resource : Resource) :
    writeEntry source exporter (progress.map id (List.map (Entry.convert exporter))) resource =
      (writeEntry source id progress resource).map id (List.map (Entry.convert exporter)) := by
  obtain ⟨session, entries⟩ := progress
  simp only [writeEntry, Prod.map, id]
  rcases draftEntry source session resource with ⟨session, text | failure⟩ <;>
    simp [Entry.convert]

theorem foldl_writeEntry (format : Format) (session : Session) (entries : List Entry)
    (resources : List Resource) :
    resources.foldl (writeEntry source format.export) (session, entries) =
      (renderFrom source format session resources).map id (entries ++ ·) := by
  induction resources generalizing session entries with
  | nil => simp [renderFrom]
  | cons resource rest ih =>
    rcases hentry : draftEntry source session resource with ⟨next, failure | text⟩
    · simp only [List.foldl_cons, writeEntry, hentry, ih, renderFrom, renderEntry, Except.map]
    · simp only [List.foldl_cons, writeEntry, hentry, ih, List.append_assoc, renderFrom,
        renderEntry, Except.map]
      rfl

theorem renderEntries_eq_writeEntries (source : Source) (format : Format) (session : Session)
    (resources : List Resource) :
    renderEntries source format session resources =
      writeEntries source format.export session resources := by
  rw [writeEntries, foldl_writeEntry]
  rfl

theorem writeEntries_eq (source : Source) (exporter : Text → Text) (session : Session)
    (resources : List Resource) :
    writeEntries source exporter session resources =
      (writeEntries source id session resources).map id (List.map (Entry.convert exporter)) := by
  have hstart : ({ session with history := session.history.resetCreators }, ([] : List Entry)) =
      Prod.map id (List.map (Entry.convert exporter))
        ({ session with history := session.history.resetCreators }, []) := rfl
  rw [writeEntries, hstart, List.foldl_hom _ writeEntry_eq]
  rfl

-- Exporting changes texts alone, whatever it does with them. Each format writes
-- what is written when every text is exported where it is made. No two exporters
-- make a difference to what is cited and listed, and how, or to the session; and
-- each turns the raw texts into its own.
theorem exporters_only_convert (source : Source) (session : Session) :
    (∀ format document, renderDocument source format document session =
      writeDocument source format.export document session) ∧
    (∀ format resources, renderEntries source format session resources =
      writeEntries source format.export session resources) ∧
    (∀ format, render source format session =
      writeEntries source format.export (disambiguated source session) source.library.resources) ∧
    (∀ left right document,
      (writeDocument source left document session).1 =
        (writeDocument source right document session).1 ∧
      (writeDocument source left document session).2.Agrees
        (writeDocument source right document session).2) ∧
    (∀ left right begun resources,
      (writeEntries source left begun resources).1 =
        (writeEntries source right begun resources).1 ∧
      (writeEntries source left begun resources).2.map (·.id) =
        (writeEntries source right begun resources).2.map (·.id)) ∧
    (∀ exporter document, (writeDocument source exporter document session).2.Converts exporter
      (renderDocument source .raw document session).2) ∧
    ∀ exporter begun resources, (writeEntries source exporter begun resources).2 =
      (renderEntries source .raw begun resources).2.map (Entry.convert exporter) := by
  refine ⟨fun format document => renderDocument_eq_writeDocument source format document session,
    fun format resources => renderEntries_eq_writeEntries source format session resources,
    fun format => renderEntries_eq_writeEntries source format _ _,
    fun left right document => ?_, fun left right begun resources => ?_,
    fun exporter document => converts_writeDocument source exporter document session,
    fun exporter begun resources => ?_⟩
  · have hleft := converts_writeDocument source left document session
    have hright := converts_writeDocument source right document session
    refine ⟨?_, hleft.agrees hright⟩
    rw [writeDocument_eq, writeDocument_eq]
    rfl
  · rw [writeEntries_eq source left, writeEntries_eq source right]
    simp [Function.comp_def, Entry.convert]
  · rw [writeEntries_eq, renderEntries_eq_writeEntries]
    rfl

end Referencing.Bibliography
