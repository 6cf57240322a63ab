import Referencing.Proofs.Text.Trimmed

namespace Referencing.Text

variable {α : Type*} (separator : Text) {pieces : List α} {left right : α → Text}

theorem join_map_cons (f : α → Text) (piece : α) (pieces : List α) :
    join separator ((piece :: pieces).map f) =
      f piece ++ if pieces = [] then [] else separator ++ join separator (pieces.map f) := by
  cases pieces <;> simp [join]

theorem length_join_map_le (h : ∀ piece ∈ pieces, (left piece).length ≤ (right piece).length) :
    (join separator (pieces.map left)).length ≤ (join separator (pieces.map right)).length := by
  induction pieces with
  | nil => rfl
  | cons piece pieces ih =>
    rw [List.forall_mem_cons] at h
    rw [join_map_cons, join_map_cons, List.length_append, List.length_append]
    split
    · simpa using h.1
    · simpa using Nat.add_le_add h.1 (Nat.add_le_add_left (ih h.2) separator.length)

-- If no piece on the left is longer, the joins are the same only if every piece is.
theorem join_map_eq_iff (h : ∀ piece ∈ pieces, (left piece).length ≤ (right piece).length) :
    join separator (pieces.map left) = join separator (pieces.map right) ↔
      ∀ piece ∈ pieces, left piece = right piece := by
  refine ⟨fun hsame => ?_, fun hsame => congrArg (join separator) (List.map_congr_left hsame)⟩
  induction pieces with
  | nil => exact List.forall_mem_nil _
  | cons piece pieces ih =>
    rw [List.forall_mem_cons] at h
    rw [join_map_cons, join_map_cons] at hsame
    by_cases hnil : pieces = []
    · simpa [hnil] using hsame
    · rw [if_neg hnil, if_neg hnil] at hsame
      have hrest := length_join_map_le separator h.2
      have htotal := congrArg List.length hsame
      have hlength : (left piece).length = (right piece).length := by
        simp only [List.length_append] at htotal
        omega
      obtain ⟨hpiece, hjoined⟩ := List.append_inj hsame hlength
      exact List.forall_mem_cons.2 ⟨hpiece, ih h.2 (List.append_cancel_left hjoined)⟩

theorem join_map_nil (f : α → Text) (pieces : List α) :
    join [] (pieces.map f) = pieces.flatMap f := by
  induction pieces with
  | nil => rfl
  | cons piece pieces ih =>
    rw [join_map_cons, ih, List.flatMap_cons]
    cases pieces <;> simp

theorem length_flatMap_le (h : ∀ piece ∈ pieces, (left piece).length ≤ (right piece).length) :
    (pieces.flatMap left).length ≤ (pieces.flatMap right).length := by
  rw [← join_map_nil, ← join_map_nil]
  exact length_join_map_le [] h

theorem flatMap_eq_iff (h : ∀ piece ∈ pieces, (left piece).length ≤ (right piece).length) :
    pieces.flatMap left = pieces.flatMap right ↔ ∀ piece ∈ pieces, left piece = right piece := by
  rw [← join_map_nil, ← join_map_nil]
  exact join_map_eq_iff [] h

-- Pieces may be joined in two steps.
theorem join_flatMap {f : α → List Text} (h : ∀ piece ∈ pieces, f piece ≠ []) :
    join separator (pieces.flatMap f) =
      join separator (pieces.map fun piece => join separator (f piece)) := by
  induction pieces with
  | nil => rfl
  | cons piece pieces ih =>
    rw [List.forall_mem_cons] at h
    rw [List.flatMap_cons, join_map_cons, ← ih h.2]
    cases pieces with
    | nil => simp
    | cons next pieces =>
      have hne : (next :: pieces).flatMap f ≠ [] := by
        simp [h.2 next List.mem_cons_self]
      rw [join_append separator h.1 hne, if_neg (List.cons_ne_nil _ _), List.append_assoc]

theorem without_join (mark : Char) (pieces : List Text) :
    without mark (join separator pieces) =
      join (without mark separator) (pieces.map (without mark)) := by
  induction pieces with
  | nil => rfl
  | cons piece pieces ih =>
    cases pieces with
    | nil => rfl
    | cons next pieces =>
      have hjoin : join separator (piece :: next :: pieces) =
          piece ++ separator ++ join separator (next :: pieces) := rfl
      rw [hjoin, without_append, without_append, ih]
      rfl

end Referencing.Text
