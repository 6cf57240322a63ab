import Referencing.Proofs.Template.Arranging
import Referencing.Proofs.Template.Fields

namespace Referencing.Template

open Text

-- Pairs that begin at `start` or later, each of them where the one before it has
-- ended or later.
def InOrder (start : Nat) : List Pair → Prop
  | [] => True
  | pair :: rest => start ≤ pair.first ∧ pair.first ≤ pair.stop ∧ InOrder pair.stop rest

def Ascending (queue : List Independent) : Prop :=
  queue.Pairwise fun earlier later => earlier.position ≤ later.position

theorem inOrder_pairUp {queue : List Independent} (h : Ascending queue) {start : Nat}
    (hstart : ∀ independent ∈ queue, start ≤ independent.position) :
    InOrder start (pairUp queue) := by
  fun_induction pairUp queue generalizing start with
  | case1 opening closing rest ih =>
    simp only [Ascending, List.pairwise_cons, List.mem_cons, forall_eq_or_imp] at h
    obtain ⟨⟨hpair, -⟩, hclosing, hrest⟩ := h
    exact ⟨hstart opening (by simp), hpair, ih hrest hclosing⟩
  | case2 => trivial

theorem InOrder.first_le_stop {start : Nat} {pairs : List Pair} (h : InOrder start pairs) :
    ∀ pair ∈ pairs, start ≤ pair.first ∧ pair.first ≤ pair.stop := by
  induction pairs generalizing start with
  | nil => simp
  | cons pair rest ih =>
    obtain ⟨hstart, hpair, hrest⟩ := h
    rw [List.forall_mem_cons]
    refine ⟨⟨hstart, hpair⟩, fun later hlater => ?_⟩
    obtain ⟨hfirst, hstop⟩ := ih hrest later hlater
    exact ⟨by omega, hstop⟩

theorem InOrder.pairwise {start : Nat} {pairs : List Pair} (h : InOrder start pairs) :
    pairs.Pairwise fun earlier later => earlier.stop ≤ later.first := by
  induction pairs generalizing start with
  | nil => exact .nil
  | cons pair rest ih =>
    obtain ⟨-, -, hrest⟩ := h
    exact .cons (fun later hlater => (hrest.first_le_stop later hlater).1) (ih hrest)

-- What is known of the texts gathered from the segments that were read.
structure Progress.Ordered (progress : Progress) : Prop where
  ascending : Ascending progress.queue
  reached : ∀ independent ∈ progress.queue, independent.position ≤ progress.fields.size
  leading : ∀ independent ∈ progress.leading, independent.position = 0

theorem Progress.Ordered.start : Progress.Ordered {} where
  ascending := .nil
  reached := by simp
  leading := by simp

theorem size_le_insert {α : Type} (dict : Dict α) (key : Text) (value : α) :
    dict.size ≤ (dict.insert key value).size := by
  have hsize : ∀ dict : Dict α, dict.size = dict.keys.length := by simp [Dict.size, Dict.keys]
  rw [hsize, hsize, dict.keys_insert]
  by_cases h : key ∈ dict.keys
  · exact Nat.le_of_eq (by rw [if_pos h])
  · rw [if_neg h, List.length_append]
    exact Nat.le_add_right _ _

theorem Progress.Ordered.addField {progress : Progress} (h : progress.Ordered) (found : Located) :
    (progress.addField found).Ordered := by
  refine ⟨h.ascending, fun independent hmem => ?_, h.leading⟩
  exact Nat.le_trans (h.reached independent hmem) (size_le_insert _ _ _)

theorem Progress.Ordered.addIndependent {progress : Progress} (h : progress.Ordered)
    (isLast : Bool) {found : Independent} (hfound : found.position = progress.fields.size) :
    (progress.addIndependent isLast found).Ordered := by
  unfold Progress.addIndependent
  split
  · next hstart =>
    split
    · exact ⟨h.ascending, h.reached, by simpa using hstart⟩
    · exact ⟨h.ascending, h.reached, h.leading⟩
  · split
    · exact ⟨h.ascending, h.reached, h.leading⟩
    · refine ⟨List.pairwise_append.2 ⟨h.ascending, by simp, ?_⟩, ?_, h.leading⟩
      · intro earlier hearlier later hlater
        rw [List.mem_singleton.1 hlater, hfound]
        exact h.reached earlier hearlier
      · intro independent hmem
        rcases List.mem_append.1 hmem with hmem | hmem
        · exact h.reached independent hmem
        · exact Nat.le_of_eq (List.mem_singleton.1 hmem ▸ hfound)

theorem position_read (segment : Text) (position : Nat) :
    (Independent.read segment position).position = position := by
  unfold Independent.read
  split <;> rfl

theorem Progress.Ordered.addSegments {progress : Progress} (h : progress.Ordered) (names : FieldSet)
    (segments : List Text) : (progress.addSegments names segments).Ordered :=
  addSegments_induction (fun _ _ found _ h => h.addField found)
    (fun _ _ _ _ h => h.addIndependent _ (position_read _ _)) h segments

-- The leading text stands before every field.
theorem Progress.Ordered.ascending_gathered {progress : Progress} (h : progress.Ordered) :
    Ascending (progress.leading.toList ++ progress.queue) := by
  cases hleading : progress.leading with
  | none => exact h.ascending
  | some lead =>
    refine .cons (fun later _ => ?_) h.ascending
    rw [h.leading lead hleading]
    exact Nat.zero_le _

theorem Progress.Ordered.le_size {progress : Progress} (h : progress.Ordered) :
    ∀ independent ∈ progress.leading.toList ++ progress.queue,
      independent.position ≤ progress.fields.size := by
  intro independent hmem
  rcases List.mem_append.1 hmem with hmem | hmem
  · rw [h.leading independent (Option.mem_toList.1 hmem)]
    exact Nat.zero_le _
  · exact h.reached independent hmem

theorem Progress.Ordered.inOrder_finish {progress : Progress} (h : progress.Ordered) :
    InOrder 0 progress.finish.pairs := by
  obtain ⟨before, after, harranges⟩ := exists_arranges_arrangement progress
  rw [pairs_finish]
  exact inOrder_pairUp (h.ascending_gathered.sublist harranges.sublist) fun _ _ => Nat.zero_le _

theorem Progress.Ordered.stop_le_size {progress : Progress} (h : progress.Ordered) :
    ∀ pair ∈ progress.finish.pairs, pair.stop ≤ progress.fields.size := by
  intro pair hpair
  rw [pairs_finish] at hpair
  obtain ⟨before, after, harranges⟩ := exists_arranges_arrangement progress
  obtain ⟨opening, -, closing, hclosing, rfl⟩ := exists_of_mem_pairUp hpair
  exact h.le_size closing (harranges.sublist.subset hclosing)

-- The pairs of a compiled template stand one after the other; none of them is
-- around a field of another one.
theorem inOrder_compile (source : Text) (names : FieldSet) :
    InOrder 0 (compile source names).pairs := by
  unfold compile
  split
  · trivial
  · simp only []
    split
    · trivial
    · exact (Progress.Ordered.start.addSegments names (segments source)).inOrder_finish

end Referencing.Template
