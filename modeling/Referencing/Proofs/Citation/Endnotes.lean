import Referencing.Proofs.Citation.CollatedNotes
import Referencing.Proofs.Citation.Conversion
import Referencing.Proofs.Data.Sorting

namespace Referencing.Citation

open Text Markup

variable {source : Source} {state : Disambiguation}

theorem renderDocument_of_endnote {source : Source} (format : Format) (document : Document)
    (session : Session) (h : source.style.citation.mode = .endnote) :
    (renderDocument source format document session).2 =
      (draftEndnotes source (source.disambiguation document) {} document).2.export format := by
  simp only [renderDocument, draftDocument, h]
  rfl

-- What points to the note with a number: its digits between the characters that the style
-- puts around them, raised if the style says so.
def markText (marker : NoteMarker) (number : Nat) : Text :=
  (if marker.superscript then "[sup]".toList else []) ++ marker.firstChars ++
    Nat.toDigits 10 number ++ marker.lastChars ++
      if marker.superscript then "[/sup]".toList else []

theorem noteMarker_eq (marker : NoteMarker) (number : Nat) :
    noteMarker marker number = markText marker number := by
  cases h : marker.superscript with
  | true => simp only [noteMarker, markText, h, if_true, ofNat, List.append_assoc]
  | false => simp [noteMarker, markText, h, ofNat]

-- The prose before an occurrence, and what points to its note as a medium writes it.
def markedText (source : Source) (format : Format) (occurrence : Occurrence)
    (number : Option Nat) : Text :=
  occurrence.textBefore ++ number.elim [] fun number =>
    format.export (markText source.style.citation.endnoteMarker number)

-- The notes under a document, one in a line.
def notesText (notes : List Note) : Text :=
  if notes = [] then []
  else "\n\n".toList ++ join ['\n']
    (notes.map fun note => Nat.toDigits 10 note.number ++ ". ".toList ++ note.text)

def Note.export (format : Format) (note : Note) : Note :=
  { note with text := format.export note.text }

-- The notes in the order of their numbers.
def sortedNotes (notes : List Note) : List Note :=
  notes.mergeSort fun left right => decide (left.number ≤ right.number)

section Text

theorem export_markedStretches (format : Format) (occurrence : Occurrence)
    (number : Option Nat) :
    (markedStretches source occurrence number).flatMap (Stretch.export format) =
      markedText source format occurrence number := by
  cases number <;> simp [markedStretches, markedText, noteMarker_eq, Stretch.export]

theorem export_noteLines (format : Format) (notes : List Note) :
    (noteLines notes).flatMap (Stretch.export format) =
      join ['\n'] ((notes.map (Note.export format)).map fun note =>
        Nat.toDigits 10 note.number ++ ". ".toList ++ note.text) := by
  rw [Stretch.export_eq_convert, convert_noteLines]
  rfl

-- Every occurrence has left its prose, and every known one a marker of its number.
theorem stretches_notesAfter (occurrences : List Occurrence) :
    ∃ marked : List (Occurrence × Option Nat),
      marked.map (·.1) = occurrences ∧
      (∀ entry ∈ marked, entry.2.isSome = source.knows entry.1) ∧
      (marked.filterMap (·.2)).map some =
        (notesAfter source state occurrences).2.citations.map (·.note) ∧
      (notesAfter source state occurrences).2.stretches =
        marked.flatMap fun entry => markedStretches source entry.1 entry.2 := by
  induction occurrences using notesAfter_induction source state with
  | start => exact ⟨[], rfl, by simp, rfl, rfl⟩
  | unknown occurrences occurrence progress h ih =>
    obtain ⟨marked, hmarked, hknown, hnumbers, hstretches⟩ := ih
    refine ⟨marked ++ [(occurrence, none)], by simp [hmarked], ?_, by simpa using hnumbers, ?_⟩
    · intro entry hentry
      rcases List.mem_append.1 hentry with hmem | hmem
      · exact hknown entry hmem
      · rw [List.mem_singleton.1 hmem, source.not_knows_of_get? h]
        rfl
    · simp [hstretches, markedStretches]
  | known occurrences occurrence resource progress h ih =>
    obtain ⟨marked, hmarked, hknown, hnumbers, hstretches⟩ := ih
    rcases hnumber : (numberNote source progress.1 occurrence.id).1 with ⟨number, isNew⟩
    rw [citeNote_eq _ _ _ _ hnumber]
    refine ⟨marked ++ [(occurrence, some number)], by simp [hmarked], ?_, ?_, ?_⟩
    · intro entry hentry
      rcases List.mem_append.1 hentry with hmem | hmem
      · exact hknown entry hmem
      · rw [List.mem_singleton.1 hmem, source.knows_of_get? h]
        rfl
    · simp [hnumbers, citedNote]
    · simp [hstretches]

end Text

theorem sortedNotes_of_increasing {notes : List Note}
    (h : (notes.map (·.number)).Pairwise (· ≤ ·)) : sortedNotes notes = notes := by
  refine List.mergeSort_of_pairwise ((List.pairwise_map.1 h).imp ?_)
  intro left right hle
  exact decide_eq_true hle

theorem increasing_sortedNotes {notes : List Note} (h : (notes.map (·.number)).Nodup) :
    ((sortedNotes notes).map (·.number)).Pairwise (· < ·) := by
  have hnodup : ((sortedNotes notes).map (·.number)).Nodup :=
    ((List.mergeSort_perm notes _).map _).nodup_iff.2 h
  have hsorted := List.pairwise_map.2 (pairwise_mergeSort_key Note.number notes)
  exact (hsorted.and hnodup).imp fun ⟨hle, hne⟩ => by omega

-- A draft with the rest of the prose and the notes under it.
def Draft.finish (draft : Draft) (document : Document) : Draft :=
  let notes := sortedNotes draft.notes
  { draft with
    stretches := draft.stretches ++
      .prose document.tail :: if notes = [] then [] else .prose ['\n', '\n'] :: noteLines notes
    notes := notes }

theorem draftEndnotes_eq (document : Document) :
    (draftEndnotes source state {} document).2 =
      (notesAfter source state document.citations).2.finish document := rfl

section Export

variable (format : Format)

theorem ids_export (citations : List Cited) :
    (citations.map (Cited.export format)).map (·.id) = citations.map (·.id) := by
  rw [List.map_map]
  rfl

theorem note_numbers_export (citations : List Cited) :
    (citations.map (Cited.export format)).map (·.note) = citations.map (·.note) := by
  rw [List.map_map]
  rfl

theorem numbers_export (notes : List Note) :
    (notes.map (Note.export format)).map (·.number) = notes.map (·.number) := by
  rw [List.map_map]
  rfl

theorem entries_export_citations (citations : List Cited) :
    (citations.map (Cited.export format)).map Cited.entry =
      (citations.map Cited.entry).map fun entry => (entry.1, format.export entry.2) := by
  rw [List.map_map, List.map_map]
  rfl

theorem entries_export_notes (notes : List Note) :
    (notes.map (Note.export format)).map Note.entry =
      (notes.map Note.entry).map fun entry => (entry.1, format.export entry.2) := by
  rw [List.map_map, List.map_map]
  rfl

theorem citations_export_finish (draft : Draft) (document : Document) :
    ((draft.finish document).export format).citations =
      draft.citations.map (Cited.export format) := rfl

theorem notes_export_finish (draft : Draft) (document : Document) :
    ((draft.finish document).export format).notes =
      (sortedNotes draft.notes).map (Note.export format) := rfl

theorem text_export_finish (draft : Draft) (document : Document) :
    ((draft.finish document).export format).text =
      draft.stretches.flatMap (Stretch.export format) ++ document.tail ++
        notesText ((sortedNotes draft.notes).map (Note.export format)) := by
  by_cases h : sortedNotes draft.notes = []
  · simp [Draft.export, Draft.finish, h, Stretch.export, notesText]
  · simp [Draft.export, Draft.finish, h, Stretch.export, notesText, export_noteLines]

end Export

-- How the citations of a document are numbered, its notes collated, and its text
-- put together.
structure NumberedNotes (source : Source) (format : Format) (document : Document)
    (output : Output) : Prop where
  -- Every occurrence of a known resource is cited, in the order of the document.
  cited : output.citations.map (·.id) = (source.known document.citations).map (·.id)
  -- Counted notes: one for each citation, from one on.
  counted : source.style.citation.endnoteStyle ≠ .sameId →
    output.citations.map (·.note) = (List.range' 1 output.citations.length).map some ∧
      output.notes.map Note.entry = output.citations.map Cited.entry
  -- Numbers that are kept: one for each resource, with its first citation.
  kept : source.style.citation.endnoteStyle = .sameId →
    (∀ left ∈ output.citations, ∀ right ∈ output.citations,
      left.note = right.note ↔ left.id = right.id) ∧
      (output.notes.map Note.entry).Perm ((firstCitations output.citations).map Cited.entry)
  ranked : source.style.citation.endnoteStyle = .sameId →
    source.style.citation.sameIdOrder = .firstCitation →
    ∀ cited ∈ output.citations,
      cited.note = some ((output.citations.map (·.id)).eraseDups.idxOf cited.id + 1)
  placed : source.style.citation.endnoteStyle = .sameId →
    source.style.citation.sameIdOrder = .bibliography →
    ∀ cited ∈ output.citations, ∃ place,
      source.library.position? cited.id = some place ∧ cited.note = some (place + 1)
  positive : ∀ note ∈ output.notes, 1 ≤ note.number
  increasing : (output.notes.map (·.number)).Pairwise (· < ·)
  named : ∀ cited ∈ output.citations, ∃ note ∈ output.notes, cited.note = some note.number
  text : ∃ marked : List (Occurrence × Option Nat),
    marked.map (·.1) = document.citations ∧
      (∀ entry ∈ marked, entry.2.isSome = source.knows entry.1) ∧
      (marked.filterMap (·.2)).map some = output.citations.map (·.note) ∧
      output.text = (marked.flatMap fun entry => markedText source format entry.1 entry.2) ++
        document.tail ++ notesText output.notes

theorem numberedNotes_finish {draft : Draft} (format : Format) (document : Document)
    (hcited : draft.citations.map (·.id) = (source.known document.citations).map (·.id))
    (hcollated : Collated source draft)
    (htext : ∃ marked : List (Occurrence × Option Nat),
      marked.map (·.1) = document.citations ∧
        (∀ entry ∈ marked, entry.2.isSome = source.knows entry.1) ∧
        (marked.filterMap (·.2)).map some = draft.citations.map (·.note) ∧
        draft.stretches = marked.flatMap fun entry => markedStretches source entry.1 entry.2) :
    NumberedNotes source format document ((draft.finish document).export format) := by
  have hknown : ∀ cited ∈ draft.citations, source.library.get? cited.id ≠ none := by
    intro cited hmem
    have hid : cited.id ∈ draft.citations.map (·.id) := List.mem_map_of_mem hmem
    rw [hcited] at hid
    obtain ⟨occurrence, hoccurrence, hsame⟩ := List.mem_map.1 hid
    have hknows := (List.mem_filter.1 hoccurrence).2
    rw [Source.knows, hsame] at hknows
    exact Option.isSome_iff_ne_none.1 hknows
  have hperm : (sortedNotes draft.notes).Perm draft.notes := List.mergeSort_perm _ _
  constructor
  case cited => rw [citations_export_finish, ids_export, hcited]
  case counted =>
    intro hstyle
    obtain ⟨hnumbers, hentries⟩ := hcollated.counted hstyle
    have hsorted : sortedNotes draft.notes = draft.notes := by
      apply sortedNotes_of_increasing
      rw [hcollated.numbers_of_counted hstyle]
      exact List.pairwise_le_range'
    rw [citations_export_finish, notes_export_finish, hsorted, note_numbers_export, hnumbers,
      List.length_map, entries_export_notes, entries_export_citations, hentries]
    exact ⟨rfl, rfl⟩
  case kept =>
    intro hstyle
    obtain ⟨hkept, hentries⟩ := hcollated.kept hstyle
    rw [citations_export_finish, notes_export_finish]
    constructor
    · simp only [List.forall_mem_map]
      intro left hleft right hright
      change left.note = right.note ↔ left.id = right.id
      rw [hkept left hleft, hkept right hright, Option.some.injEq]
      exact ⟨eq_of_keptNumber_eq (List.mem_map_of_mem hleft) (hknown left hleft),
        fun hsame => by rw [hsame]⟩
    · rw [firstCitations_map (Cited.export format) (fun _ => rfl),
        entries_export_notes, entries_export_citations, ← hentries]
      exact (hperm.map Note.entry).map _
  case ranked =>
    intro hstyle horder
    have hkept := (hcollated.kept hstyle).1
    simp only [keptNumber, horder] at hkept
    rw [citations_export_finish, ids_export]
    exact List.forall_mem_map.2 hkept
  case placed =>
    intro hstyle horder
    have hkept := (hcollated.kept hstyle).1
    simp only [keptNumber, horder] at hkept
    refine List.forall_mem_map.2 fun cited hmem => ?_
    cases hplace : source.library.position? cited.id with
    | none => exact absurd ((source.library.position?_eq_none_iff _).1 hplace) (hknown cited hmem)
    | some place =>
      refine ⟨place, rfl, (hkept cited hmem).trans ?_⟩
      rw [hplace, Option.elim_some]
  case positive =>
    rw [notes_export_finish]
    refine List.forall_mem_map.2 fun note hmem => ?_
    exact hcollated.number_pos hknown note (hperm.mem_iff.1 hmem)
  case increasing =>
    rw [notes_export_finish, numbers_export]
    exact increasing_sortedNotes (hcollated.nodup_numbers hknown)
  case named =>
    rw [citations_export_finish, notes_export_finish]
    refine List.forall_mem_map.2 fun cited hmem => ?_
    obtain ⟨note, hnote, hsame⟩ := hcollated.exists_note hmem
    exact ⟨note.export format, List.mem_map_of_mem (hperm.mem_iff.2 hnote), hsame⟩
  case text =>
    obtain ⟨marked, hmarked, hknows, hnumbers, hstretches⟩ := htext
    refine ⟨marked, hmarked, hknows, ?_, ?_⟩
    · rw [citations_export_finish, note_numbers_export, hnumbers]
    · rw [text_export_finish, notes_export_finish, hstretches, List.flatMap_assoc]
      simp only [export_markedStretches]

-- Whatever the style and the document, the notes are numbered consistently.
theorem renderDocument_numberedNotes (source : Source) (format : Format) (document : Document)
    (session : Session) (h : source.style.citation.mode = .endnote) :
    NumberedNotes source format document (renderDocument source format document session).2 := by
  rw [renderDocument_of_endnote format document session h, draftEndnotes_eq]
  exact numberedNotes_finish format document (ids_notesAfter _) (collated_notesAfter _).2
    (stretches_notesAfter _)

-- Two resources cited against the order of the library, one of them again, and
-- one that the library does not have.
theorem numberedNotes_bibliography_order :
    let options : CitationOptions :=
      { mode := .endnote
        endnoteStyle := .sameId
        sameIdOrder := .bibliography
        endnoteMarker := { firstChars := ['('], lastChars := [')'], superscript := true } }
    let source := Source.make { citation := options }
      (Library.ofList [{ id := ['a'] }, { id := ['b'] }])
    let document : Document :=
      { citations :=
          [{ id := ['b'], textBefore := "One".toList },
            { id := ['c'], textBefore := ", two".toList },
            { id := ['a'], textBefore := ", three".toList }, { id := ['b'] }]
        tail := ['.'] }
    let output := (renderDocument source .html document {}).2
    source.style.citation.mode = .endnote ∧ NumberedNotes source .html document output ∧
      output.citations.map (·.note) = [some 2, some 1, some 2] ∧
      "One<sup>(2)</sup>, two, three<sup>(1)</sup><sup>(2)</sup>.".toList <+: output.text := by
  intro options source document output
  refine ⟨rfl, renderDocument_numberedNotes source .html document {} rfl, ?_⟩
  decide +kernel

end Referencing.Citation
