import Mathlib.Data.List.Basic
import Referencing.Proofs.Citation.FirstCitations
import Referencing.Proofs.Citation.NoteRun

namespace Referencing.Citation

variable {source : Source} {state : Disambiguation} {ids : List Text} {id : Text}

-- The number that a resource keeps, once it is among those cited: its rank in the
-- order of first citations, or its place in the library.
def keptNumber (source : Source) (ids : List Text) (id : Text) : Nat :=
  match source.style.citation.sameIdOrder with
  | .firstCitation => ids.eraseDups.idxOf id + 1
  | .bibliography => (source.library.position? id).elim 0 (· + 1)

theorem keptNumber_concat (other : Text) (h : id ∈ ids) :
    keptNumber source (ids ++ [other]) id = keptNumber source ids id := by
  unfold keptNumber
  cases source.style.citation.sameIdOrder with
  | firstCitation => simp only [idxOf_eraseDups_append [other] h]
  | bibliography => rfl

theorem keptNumber_pos (hknown : source.library.get? id ≠ none) :
    1 ≤ keptNumber source ids id := by
  unfold keptNumber
  cases source.style.citation.sameIdOrder with
  | firstCitation => exact Nat.le_add_left 1 _
  | bibliography =>
    cases h : source.library.position? id with
    | none => exact absurd ((source.library.position?_eq_none_iff id).1 h) hknown
    | some place => exact Nat.le_add_left 1 _

-- Two resources do not keep the same number, whatever the order is.
theorem eq_of_keptNumber_eq {other : Text} (hid : id ∈ ids)
    (hknown : source.library.get? id ≠ none)
    (h : keptNumber source ids id = keptNumber source ids other) : id = other := by
  unfold keptNumber at h
  cases horder : source.style.citation.sameIdOrder with
  | firstCitation =>
    simp only [horder, Nat.add_right_cancel_iff] at h
    exact (List.idxOf_inj (List.mem_eraseDups.2 hid)).1 h
  | bibliography =>
    simp only [horder] at h
    cases hplace : source.library.position? id with
    | none => exact absurd ((source.library.position?_eq_none_iff id).1 hplace) hknown
    | some place =>
      cases hother : source.library.position? other with
      | none => simp [hplace, hother] at h
      | some otherPlace =>
        simp only [hplace, hother, Option.elim_some, Nat.add_right_cancel_iff] at h
        have hsame := (Library.id_of_position? hplace).symm.trans
          (h ▸ Library.id_of_position? hother)
        exact Option.some.inj hsame

-- What the history holds of the numbers after citations of these resources.
structure Numbered (source : Source) (ids : List Text) (history : History) : Prop where
  counted : source.style.citation.endnoteStyle ≠ .sameId → history.noteCount = ids.length
  kept : source.style.citation.endnoteStyle = .sameId → ∀ id,
    history.noteId? id = if id ∈ ids then some (keptNumber source ids id) else none
  ranked : source.style.citation.endnoteStyle = .sameId →
    source.style.citation.sameIdOrder = .firstCitation →
    history.noteCount = ids.eraseDups.length

theorem Numbered.start (source : Source) : Numbered source [] {} where
  counted _ := rfl
  kept _ _ := by simp [History.noteId?]
  ranked _ _ := rfl

theorem Numbered.record {history : History} (h : Numbered source ids history) (id : Text)
    (pages : Option Text) : Numbered source ids (history.record id pages) :=
  ⟨h.counted, h.kept, h.ranked⟩

theorem Numbered.clearLastCitation {history : History} (h : Numbered source ids history) :
    Numbered source ids history.clearLastCitation :=
  ⟨h.counted, h.kept, h.ranked⟩

-- Every citation has the next number.
theorem Numbered.count {history : History} (h : Numbered source ids history) (id : Text)
    (hstyle : source.style.citation.endnoteStyle ≠ .sameId) :
    (numberNote source history id).1 = (ids.length + 1, true) ∧
      Numbered source (ids ++ [id]) (numberNote source history id).2 := by
  rw [numberNote_counted _ _ hstyle, h.counted hstyle]
  exact ⟨rfl, fun _ => by simp, fun hsame => absurd hsame hstyle,
    fun hsame => absurd hsame hstyle⟩

-- A resource that has a number keeps it.
theorem Numbered.again {history : History} (h : Numbered source ids history)
    (hstyle : source.style.citation.endnoteStyle = .sameId) (hid : id ∈ ids) :
    (numberNote source history id).1 = (keptNumber source ids id, false) ∧
      Numbered source (ids ++ [id]) (numberNote source history id).2 := by
  have hkept : history.noteId? id = some (keptNumber source ids id) := by
    rw [h.kept hstyle, if_pos hid]
  have hsame : Numbered source (ids ++ [id]) history := by
    refine ⟨fun hne => absurd hstyle hne, fun _ other => ?_, fun _ horder => ?_⟩
    · rw [h.kept hstyle]
      by_cases hother : other ∈ ids
      · rw [if_pos hother, if_pos (by simp [hother]), keptNumber_concat id hother]
      · have hne : other ≠ id := fun same => hother (same ▸ hid)
        simp [hother, hne]
    · rw [h.ranked hstyle horder, eraseDups_concat_of_mem hid]
  cases horder : source.style.citation.sameIdOrder with
  | firstCitation =>
    rw [numberNote_firstCitation _ _ hstyle horder, History.noteIdFor_of_some hkept]
    exact ⟨rfl, hsame⟩
  | bibliography =>
    rw [numberNote_bibliography _ _ hstyle horder, History.fixedNoteId_of_some _ hkept]
    exact ⟨rfl, hsame⟩

-- The numbers that are kept already stay when a resource is cited first.
theorem keptNumber_of_insert {history : History} (h : Numbered source ids history)
    (hstyle : source.style.citation.endnoteStyle = .sameId) (hid : id ∉ ids) (other : Text) :
    (history.noteIds.insert id (keptNumber source (ids ++ [id]) id)).get? other =
      if other ∈ ids ++ [id] then some (keptNumber source (ids ++ [id]) other) else none := by
  have hkept := h.kept hstyle other
  rw [History.noteId?] at hkept
  rw [Dict.get?_insert]
  by_cases hsame : other = id
  · subst hsame
    simp
  · by_cases hother : other ∈ ids
    · simp [hsame, hother, hkept, keptNumber_concat id hother]
    · simp [hsame, hother, hkept]

theorem Numbered.first {history : History} (h : Numbered source ids history)
    (hstyle : source.style.citation.endnoteStyle = .sameId) (hid : id ∉ ids) :
    (numberNote source history id).1 = (keptNumber source (ids ++ [id]) id, true) ∧
      Numbered source (ids ++ [id]) (numberNote source history id).2 := by
  have hnone : history.noteId? id = none := by rw [h.kept hstyle, if_neg hid]
  have hinsert := keptNumber_of_insert h hstyle hid
  cases horder : source.style.citation.sameIdOrder with
  | firstCitation =>
    have hcount := h.ranked hstyle horder
    have hrank : keptNumber source (ids ++ [id]) id = history.noteCount + 1 := by
      simp only [keptNumber, horder, idxOf_eraseDups_concat_self hid, hcount]
    rw [numberNote_firstCitation _ _ hstyle horder, History.noteIdFor_of_none hnone, ← hrank]
    refine ⟨rfl, fun hne => absurd hstyle hne, fun _ => hinsert, fun _ _ => ?_⟩
    simp [hrank, hcount, eraseDups_concat_of_not_mem hid]
  | bibliography =>
    have hplace : keptNumber source (ids ++ [id]) id =
        (source.library.position? id).elim 0 (· + 1) := by
      simp only [keptNumber, horder]
    rw [numberNote_bibliography _ _ hstyle horder, History.fixedNoteId_of_none _ hnone, ← hplace]
    exact ⟨rfl, fun hne => absurd hstyle hne, fun _ => hinsert,
      fun _ hfirst => by simp [horder] at hfirst⟩

end Referencing.Citation
