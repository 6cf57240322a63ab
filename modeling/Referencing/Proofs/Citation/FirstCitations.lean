import Mathlib.Data.List.Induction
import Referencing.Citation.Draft

namespace Referencing.Citation

section EraseDups

variable {α : Type} [BEq α] [LawfulBEq α] {ids : List α} {id : α}

theorem eraseDups_concat_of_mem (h : id ∈ ids) : (ids ++ [id]).eraseDups = ids.eraseDups := by
  simp [List.eraseDups_append, List.removeAll, h]

theorem eraseDups_concat_of_not_mem (h : id ∉ ids) :
    (ids ++ [id]).eraseDups = ids.eraseDups ++ [id] := by
  simp [List.eraseDups_append, List.removeAll, h, List.eraseDups_cons]

theorem nodup_eraseDups (ids : List α) : ids.eraseDups.Nodup := by
  induction ids using List.reverseRecOn with
  | nil => simp
  | append_singleton ids id ih =>
    by_cases h : id ∈ ids
    · rwa [eraseDups_concat_of_mem h]
    · rw [eraseDups_concat_of_not_mem h]
      refine List.nodup_append.2 ⟨ih, by simp, ?_⟩
      intro other hother new hnew
      simp only [List.mem_singleton] at hnew
      subst hnew
      rintro rfl
      exact h (List.mem_eraseDups.1 hother)

-- The rank of what has occurred does not change any more.
theorem idxOf_eraseDups_append (others : List α) (h : id ∈ ids) :
    (ids ++ others).eraseDups.idxOf id = ids.eraseDups.idxOf id := by
  rw [List.eraseDups_append, List.idxOf_append, if_pos (List.mem_eraseDups.2 h)]

theorem idxOf_eraseDups_concat_self (h : id ∉ ids) :
    (ids ++ [id]).eraseDups.idxOf id = ids.eraseDups.length := by
  have hnot : id ∉ ids.eraseDups := fun hmem => h (List.mem_eraseDups.1 hmem)
  rw [eraseDups_concat_of_not_mem h, List.idxOf_append, if_neg hnot]
  simp

end EraseDups

-- The first citation of each resource, in the order of the citations.
def firstCitations : List Cited → List Cited
  | [] => []
  | cited :: rest => cited :: (firstCitations rest).filter (·.id ≠ cited.id)

theorem firstCitations_concat_of_not_mem {citations : List Cited} {cited : Cited}
    (h : cited.id ∉ citations.map (·.id)) :
    firstCitations (citations ++ [cited]) = firstCitations citations ++ [cited] := by
  induction citations with
  | nil => simp [firstCitations]
  | cons first rest ih =>
    simp only [List.map_cons, List.mem_cons, not_or] at h
    simp [firstCitations, ih h.2, h.1]

theorem firstCitations_concat_of_mem {citations : List Cited} {cited : Cited}
    (h : cited.id ∈ citations.map (·.id)) :
    firstCitations (citations ++ [cited]) = firstCitations citations := by
  induction citations with
  | nil => simp at h
  | cons first rest ih =>
    simp only [List.cons_append, firstCitations]
    by_cases hrest : cited.id ∈ rest.map (·.id)
    · rw [ih hrest]
    · have hfirst : cited.id = first.id := by simpa [hrest] using h
      simp [firstCitations_concat_of_not_mem hrest, hfirst]

theorem ids_firstCitations (citations : List Cited) :
    (firstCitations citations).map (·.id) = (citations.map (·.id)).eraseDups := by
  induction citations using List.reverseRecOn with
  | nil => rfl
  | append_singleton citations cited ih =>
    rw [List.map_append, List.map_singleton]
    by_cases h : cited.id ∈ citations.map (·.id)
    · rw [firstCitations_concat_of_mem h, eraseDups_concat_of_mem h, ih]
    · rw [firstCitations_concat_of_not_mem h, eraseDups_concat_of_not_mem h, ← ih]
      simp

theorem firstCitations_map (change : Cited → Cited) (h : ∀ cited, (change cited).id = cited.id)
    (citations : List Cited) :
    firstCitations (citations.map change) = (firstCitations citations).map change := by
  induction citations with
  | nil => rfl
  | cons first rest ih => simp [firstCitations, ih, List.filter_map, Function.comp_def, h]

theorem mem_of_mem_firstCitations {citations : List Cited} {cited : Cited}
    (h : cited ∈ firstCitations citations) : cited ∈ citations := by
  induction citations with
  | nil => simp [firstCitations] at h
  | cons first rest ih =>
    simp only [firstCitations, List.mem_cons, List.mem_filter] at h
    rcases h with rfl | ⟨h, -⟩
    · exact List.mem_cons_self
    · exact List.mem_cons_of_mem _ (ih h)

end Referencing.Citation
