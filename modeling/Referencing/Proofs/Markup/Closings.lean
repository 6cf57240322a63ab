import Referencing.Proofs.Markup.Joins

namespace Referencing.Markup

open Text

-- A piece that does not tell which tag it closes.
def Piece.merged : Piece → Piece
  | .tagged ⟨_, true⟩ => .tagged ⟨.bold, true⟩
  | piece => piece

-- A text in which all closing markers are the same.
def mergeClosings (text : Text) : Text :=
  (pieces text).flatMap fun piece => piece.merged.spelling

-- Every text is read mark by mark, and where no mark begins, character by character.
theorem pieces_induction {motive : Text → Prop} (nil : motive [])
    (dash : ∀ rest, motive rest → motive (dashMark ++ rest))
    (tagged : ∀ (marker : Marker) rest, motive rest → motive (marker.spelling ++ rest))
    (char : ∀ c rest, (∀ mark ∈ marks, ¬mark <+: c :: rest) → motive rest → motive (c :: rest))
    (text : Text) : motive text := by
  induction hlength : text.length using Nat.strongRecOn generalizing text with
  | ind length ih =>
    by_cases hmark : ∃ mark ∈ marks, mark <+: text
    · obtain ⟨mark, hmem, rest, rfl⟩ := hmark
      have hshorter : rest.length < length := by
        obtain ⟨tail, rfl, -⟩ := exists_of_mem_marks hmem
        rw [List.length_append, List.length_cons] at hlength
        omega
      have hrest : motive rest := ih rest.length hshorter rest rfl
      rcases eq_of_mem_marks hmem with rfl | ⟨marker, rfl⟩
      · exact dash rest hrest
      · exact tagged marker rest hrest
    · cases text with
      | nil => exact nil
      | cons c rest =>
        rw [List.length_cons] at hlength
        exact char c rest (fun mark hmem hbegins => hmark ⟨mark, hmem, hbegins⟩)
          (ih rest.length (by omega) rest rfl)

section Merging

variable {c : Char} {rest text stem : Text}

theorem mergeClosings_nil : mergeClosings [] = [] := by
  rw [mergeClosings, pieces_nil, List.flatMap_nil]

theorem mergeClosings_dashMark_append (rest : Text) :
    mergeClosings (dashMark ++ rest) = dashMark ++ mergeClosings rest := by
  rw [mergeClosings, pieces_dashMark_append, List.flatMap_cons, ← mergeClosings]
  rfl

theorem mergeClosings_spelling_append (marker : Marker) (rest : Text) :
    mergeClosings (marker.spelling ++ rest) =
      (Piece.tagged marker).merged.spelling ++ mergeClosings rest := by
  rw [mergeClosings, pieces_spelling_append, List.flatMap_cons, ← mergeClosings]

theorem mergeClosings_cons (h : ∀ mark ∈ marks, ¬mark <+: c :: rest) :
    mergeClosings (c :: rest) = c :: mergeClosings rest := by
  rw [mergeClosings, pieces_cons_of_not_mark h, List.flatMap_cons, ← mergeClosings]
  rfl

theorem Piece.merged_tagged (marker : Marker) :
    ∃ other : Marker, (Piece.tagged marker).merged = .tagged other := by
  obtain ⟨tag, closing⟩ := marker
  cases closing with
  | true => exact ⟨_, rfl⟩
  | false => exact ⟨_, rfl⟩

theorem head?_mergeClosings (text : Text) : (mergeClosings text).head? = text.head? := by
  induction text using pieces_induction with
  | nil => rw [mergeClosings_nil]
  | dash rest _ => rw [mergeClosings_dashMark_append]; rfl
  | tagged marker rest _ =>
    obtain ⟨other, hother⟩ := Piece.merged_tagged marker
    rw [mergeClosings_spelling_append, hother]
    rfl
  | char c rest h _ => rw [mergeClosings_cons h]; rfl

-- What stands before the first opening bracket is not touched.
theorem isPrefix_of_isPrefix_mergeClosings (hstem : '[' ∉ stem) (h : stem <+: mergeClosings text) :
    stem <+: text := by
  induction stem generalizing text with
  | nil => exact List.nil_prefix
  | cons first stem ih =>
    rw [List.mem_cons, not_or] at hstem
    have hhead : text.head? = some first := by
      rw [← head?_mergeClosings]
      obtain ⟨after, hafter⟩ := h
      rw [← hafter, List.cons_append, List.head?_cons]
    obtain ⟨rest, rfl⟩ := List.head?_eq_some_iff.1 hhead
    have hmarks : ∀ mark ∈ marks, ¬mark <+: first :: rest := by
      intro mark hmem hbegins
      obtain ⟨tail, rfl, -⟩ := exists_of_mem_marks hmem
      exact hstem.1 (List.cons_prefix_cons.1 hbegins).1
    rw [mergeClosings_cons hmarks] at h
    rw [List.cons_prefix_cons] at h ⊢
    exact ⟨rfl, ih hstem.2 h.2⟩

-- So no mark comes to stand where there was none.
theorem pieces_mergeClosings (text : Text) :
    pieces (mergeClosings text) = (pieces text).map Piece.merged := by
  induction text using pieces_induction with
  | nil => rw [mergeClosings_nil, pieces_nil, List.map_nil]
  | dash rest ih =>
    rw [mergeClosings_dashMark_append, pieces_dashMark_append, pieces_dashMark_append, ih,
      List.map_cons]
    rfl
  | tagged marker rest ih =>
    obtain ⟨other, hother⟩ := Piece.merged_tagged marker
    rw [mergeClosings_spelling_append, pieces_spelling_append, List.map_cons, hother, ← ih]
    exact pieces_spelling_append other _
  | char c rest h ih =>
    have hmarks : ∀ mark ∈ marks, ¬mark <+: c :: mergeClosings rest := by
      intro mark hmem hbegins
      obtain ⟨tail, rfl, htail⟩ := exists_of_mem_marks hmem
      rw [List.cons_prefix_cons] at hbegins
      refine h _ hmem (List.cons_prefix_cons.2 ⟨hbegins.1, ?_⟩)
      exact isPrefix_of_isPrefix_mergeClosings htail hbegins.2
    rw [mergeClosings_cons h, pieces_cons_of_not_mark hmarks, pieces_cons_of_not_mark h, ih,
      List.map_cons]
    rfl

end Merging

end Referencing.Markup
