import Mathlib.Data.List.Nodup
import Mathlib.Data.Option.Basic
import Referencing.Citation.Document
import Referencing.Proofs.Citation.NoteNumbers

namespace Referencing.Citation

open Text Markup

variable {source : Source} {state : Disambiguation}

def Cited.entry (cited : Cited) : Option Nat × Text :=
  (cited.note, cited.text)

def Note.entry (note : Note) : Option Nat × Text :=
  (some note.number, note.text)

-- Which notes there are: one for every citation, counted, or one for the first
-- citation of every resource.
structure Collated (source : Source) (draft : Draft) : Prop where
  counted : source.style.citation.endnoteStyle ≠ .sameId →
    draft.citations.map (·.note) = (List.range' 1 draft.citations.length).map some ∧
      draft.notes.map Note.entry = draft.citations.map Cited.entry
  kept : source.style.citation.endnoteStyle = .sameId →
    (∀ cited ∈ draft.citations,
      cited.note = some (keptNumber source (draft.citations.map (·.id)) cited.id)) ∧
      draft.notes.map Note.entry = (firstCitations draft.citations).map Cited.entry

theorem Collated.start (source : Source) : Collated source {} :=
  ⟨fun _ => ⟨rfl, rfl⟩, fun _ => ⟨fun _ h => by simp at h, rfl⟩⟩

section Note

variable {draft : Draft} {occurrence : Occurrence} {cited : Cited} {number : Nat}

theorem Collated.count (h : Collated source draft)
    (hstyle : source.style.citation.endnoteStyle ≠ .sameId)
    (hnote : cited.note = some (draft.citations.length + 1)) :
    Collated source (draft.note source occurrence cited (draft.citations.length + 1) true) := by
  obtain ⟨hnumbers, hentries⟩ := h.counted hstyle
  refine ⟨fun _ => ⟨?_, ?_⟩, fun hsame => absurd hsame hstyle⟩
  · simp [Draft.note, hnumbers, hnote, List.range'_1_concat, Nat.add_comm]
  · simp [Draft.note, hentries, Note.entry, Cited.entry, hnote]

-- The numbers of the citations before do not depend on the new one.
theorem Collated.kept_concat (h : Collated source draft)
    (hstyle : source.style.citation.endnoteStyle = .sameId)
    (hnote : cited.note =
      some (keptNumber source (draft.citations.map (·.id) ++ [cited.id]) cited.id)) :
    ∀ other ∈ draft.citations ++ [cited],
      other.note =
        some (keptNumber source ((draft.citations ++ [cited]).map (·.id)) other.id) := by
  intro other hother
  rw [List.map_append, List.map_singleton]
  rcases List.mem_append.1 hother with hmem | hmem
  · rw [(h.kept hstyle).1 other hmem, keptNumber_concat _ (List.mem_map_of_mem hmem)]
  · rw [List.mem_singleton.1 hmem, hnote]

theorem Collated.again (h : Collated source draft)
    (hstyle : source.style.citation.endnoteStyle = .sameId)
    (hid : cited.id ∈ draft.citations.map (·.id))
    (hnote : cited.note = some (keptNumber source (draft.citations.map (·.id)) cited.id)) :
    Collated source (draft.note source occurrence cited number false) := by
  refine ⟨fun hne => absurd hstyle hne, fun _ => ⟨?_, ?_⟩⟩
  · exact h.kept_concat hstyle (by rw [hnote, keptNumber_concat _ hid])
  · simp [Draft.note, (h.kept hstyle).2, firstCitations_concat_of_mem hid]

theorem Collated.first (h : Collated source draft)
    (hstyle : source.style.citation.endnoteStyle = .sameId)
    (hid : cited.id ∉ draft.citations.map (·.id))
    (hnote : cited.note =
      some (keptNumber source (draft.citations.map (·.id) ++ [cited.id]) cited.id))
    (hnumber : cited.note = some number) :
    Collated source (draft.note source occurrence cited number true) := by
  refine ⟨fun hne => absurd hstyle hne, fun _ => ⟨h.kept_concat hstyle hnote, ?_⟩⟩
  simp [Draft.note, (h.kept hstyle).2, firstCitations_concat_of_not_mem hid, Note.entry,
    Cited.entry, hnumber]

end Note

-- Numbers and notes agree after any occurrences.
theorem collated_notesAfter (occurrences : List Occurrence) :
    Numbered source ((notesAfter source state occurrences).2.citations.map (·.id))
        (notesAfter source state occurrences).1 ∧
      Collated source (notesAfter source state occurrences).2 := by
  induction occurrences using notesAfter_induction source state with
  | start => exact ⟨Numbered.start source, Collated.start source⟩
  | unknown occurrences occurrence progress h ih =>
    exact ⟨ih.1.clearLastCitation, ⟨ih.2.counted, ih.2.kept⟩⟩
  | known occurrences occurrence resource progress h ih =>
    obtain ⟨history, draft⟩ := progress
    obtain ⟨hnumbered, hcollated⟩ := ih
    have hids (cited : Cited) (number : Nat) (isNew : Bool) (hid : cited.id = occurrence.id) :
        (draft.note source occurrence cited number isNew).citations.map (·.id) =
          draft.citations.map (·.id) ++ [occurrence.id] := by
      simp [Draft.note, hid]
    by_cases hstyle : source.style.citation.endnoteStyle = .sameId
    · by_cases hid : occurrence.id ∈ draft.citations.map (·.id)
      · obtain ⟨hnumber, hnext⟩ := hnumbered.again hstyle hid
        rw [citeNote_eq _ _ _ _ hnumber]
        refine ⟨?_, hcollated.again hstyle hid rfl⟩
        rw [hids _ _ _ rfl]
        exact hnext.record _ _
      · obtain ⟨hnumber, hnext⟩ := hnumbered.first hstyle hid
        rw [citeNote_eq _ _ _ _ hnumber]
        refine ⟨?_, hcollated.first hstyle hid rfl rfl⟩
        rw [hids _ _ _ rfl]
        exact hnext.record _ _
    · obtain ⟨hnumber, hnext⟩ := hnumbered.count occurrence.id hstyle
      rw [List.length_map] at hnumber
      rw [citeNote_eq _ _ _ _ hnumber]
      refine ⟨?_, hcollated.count hstyle rfl⟩
      rw [hids _ _ _ rfl]
      exact hnext.record _ _

section Numbers

variable {draft : Draft}

theorem eq_of_map_some_eq {left right : List Nat} (h : left.map some = right.map some) :
    left = right :=
  List.map_injective_iff.2 (Option.some_injective Nat) h

theorem Collated.numbers_of_counted (h : Collated source draft)
    (hstyle : source.style.citation.endnoteStyle ≠ .sameId) :
    draft.notes.map (·.number) = List.range' 1 draft.citations.length := by
  obtain ⟨hnumbers, hentries⟩ := h.counted hstyle
  apply eq_of_map_some_eq
  rw [← hnumbers]
  have hfirst := congrArg (List.map Prod.fst) hentries
  simpa [Note.entry, Cited.entry, Function.comp_def] using hfirst

theorem Collated.numbers_of_kept (h : Collated source draft)
    (hstyle : source.style.citation.endnoteStyle = .sameId) :
    draft.notes.map (·.number) = (draft.citations.map (·.id)).eraseDups.map
      (keptNumber source (draft.citations.map (·.id))) := by
  obtain ⟨hkept, hentries⟩ := h.kept hstyle
  apply eq_of_map_some_eq
  have hfirst := congrArg (List.map Prod.fst) hentries
  rw [List.map_map, List.map_map] at hfirst
  rw [List.map_map, ← ids_firstCitations, List.map_map, List.map_map]
  refine hfirst.trans (List.map_congr_left fun cited hcited => ?_)
  exact hkept cited (mem_of_mem_firstCitations hcited)

theorem Collated.nodup_numbers (h : Collated source draft)
    (hknown : ∀ cited ∈ draft.citations, source.library.get? cited.id ≠ none) :
    (draft.notes.map (·.number)).Nodup := by
  by_cases hstyle : source.style.citation.endnoteStyle = .sameId
  · rw [h.numbers_of_kept hstyle]
    refine (nodup_eraseDups _).map_on fun left hleft right _ hsame => ?_
    have hmem := List.mem_eraseDups.1 hleft
    obtain ⟨cited, hcited, rfl⟩ := List.mem_map.1 hmem
    exact eq_of_keptNumber_eq hmem (hknown cited hcited) hsame
  · rw [h.numbers_of_counted hstyle]
    exact List.nodup_range'

theorem Collated.number_pos (h : Collated source draft)
    (hknown : ∀ cited ∈ draft.citations, source.library.get? cited.id ≠ none) :
    ∀ note ∈ draft.notes, 1 ≤ note.number := by
  intro note hnote
  have hnumber : note.number ∈ draft.notes.map (·.number) := List.mem_map_of_mem hnote
  by_cases hstyle : source.style.citation.endnoteStyle = .sameId
  · rw [h.numbers_of_kept hstyle] at hnumber
    obtain ⟨id, hid, hnumber⟩ := List.mem_map.1 hnumber
    obtain ⟨cited, hcited, rfl⟩ := List.mem_map.1 (List.mem_eraseDups.1 hid)
    exact hnumber ▸ keptNumber_pos (hknown cited hcited)
  · rw [h.numbers_of_counted hstyle] at hnumber
    exact (List.mem_range'_1.1 hnumber).1

-- No citation points to a note that is not there.
theorem Collated.exists_note (h : Collated source draft) {cited : Cited}
    (hcited : cited ∈ draft.citations) :
    ∃ note ∈ draft.notes, cited.note = some note.number := by
  by_cases hstyle : source.style.citation.endnoteStyle = .sameId
  · have hid : cited.id ∈ (draft.citations.map (·.id)).eraseDups :=
      List.mem_eraseDups.2 (List.mem_map_of_mem hcited)
    have hnumber : keptNumber source (draft.citations.map (·.id)) cited.id ∈
        (draft.citations.map (·.id)).eraseDups.map
          (keptNumber source (draft.citations.map (·.id))) := List.mem_map_of_mem hid
    rw [← h.numbers_of_kept hstyle] at hnumber
    obtain ⟨note, hnote, hsame⟩ := List.mem_map.1 hnumber
    exact ⟨note, hnote, by rw [(h.kept hstyle).1 cited hcited, hsame]⟩
  · have hentry : cited.entry ∈ draft.citations.map Cited.entry := List.mem_map_of_mem hcited
    rw [← (h.counted hstyle).2] at hentry
    obtain ⟨note, hnote, hsame⟩ := List.mem_map.1 hentry
    exact ⟨note, hnote, (congrArg Prod.fst hsame).symm⟩

end Numbers

end Referencing.Citation
