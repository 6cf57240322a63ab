import Referencing.Markup.Export
import Referencing.Markup.Visible

namespace Referencing.Markup

open Text

def isBracket (c : Char) : Bool :=
  c = '[' || c = ']'

-- Every bracket of the text belongs to a marker.
inductive WellMarked : Text → Prop
  | nil : WellMarked []
  | char {c : Char} {rest : Text} (h : isBracket c = false) (hrest : WellMarked rest) :
      WellMarked (c :: rest)
  | marker (marker : Marker) {rest : Text} (hrest : WellMarked rest) :
      WellMarked (marker.spelling ++ rest)

def Piece.marker? : Piece → Option Marker
  | .tagged marker => some marker
  | _ => none

-- A piece that has no bracket but those of a marker.
def Piece.isPlain : Piece → Bool
  | .dash => false
  | .tagged _ => true
  | .char c => !isBracket c

-- What is left of a piece when markers are taken away.
def Piece.unmarked : Piece → Text
  | .tagged _ => []
  | piece => piece.spelling

def markers (text : Text) : List Marker :=
  (pieces text).filterMap Piece.marker?

def unmarked (text : Text) : Text :=
  (pieces text).flatMap Piece.unmarked

theorem ne_bracket {c : Char} (h : isBracket c = false) : c ≠ '[' ∧ c ≠ ']' := by
  simpa [isBracket] using h

theorem parse?_spelling_append (marker : Marker) (rest : Text) :
    Marker.parse? (marker.spelling ++ rest) = some marker := by
  obtain ⟨tag, closing⟩ := marker
  cases tag <;> cases closing <;> rfl

theorem parse?_cons_of_ne {c : Char} (rest : Text) (h : c ≠ '[') :
    Marker.parse? (c :: rest) = none := by
  rw [Marker.parse?, List.find?_eq_none]
  intro marker _
  simp [Marker.spelling, Ne.symm h]

theorem first_spelling_append (marker : Marker) (rest : Text) {c : Char} {tail : Text}
    (h : marker.spelling ++ rest = c :: tail) : Piece.first c tail = .tagged marker := by
  have hdash : dashMark.isPrefixOf (marker.spelling ++ rest) = false := by
    obtain ⟨tag, closing⟩ := marker
    cases tag <;> cases closing <;> rfl
  have hparse := parse?_spelling_append marker rest
  rw [h] at hdash hparse
  simp [Piece.first, hdash, hparse]

@[simp] theorem pieces_nil : pieces [] = [] := by
  rw [pieces]

@[simp] theorem pieces_spelling_append (marker : Marker) (rest : Text) :
    pieces (marker.spelling ++ rest) = .tagged marker :: pieces rest := by
  obtain ⟨c, tail, h⟩ := List.exists_cons_of_ne_nil marker.spelling_ne_nil
  rw [h, List.cons_append, pieces, first_spelling_append marker rest (by rw [h, List.cons_append])]
  simp only [Piece.spelling]
  rw [← List.cons_append, ← h, List.drop_left]

theorem pieces_cons_of_ne {c : Char} (rest : Text) (h : c ≠ '[') :
    pieces (c :: rest) = .char c :: pieces rest := by
  have hfirst : Piece.first c rest = .char c := by
    simp [Piece.first, parse?_cons_of_ne rest h, dashMark, Ne.symm h]
  rw [pieces, hfirst]
  simp [Piece.spelling]

theorem pieces_cons {c : Char} (rest : Text) (h : isBracket c = false) :
    pieces (c :: rest) = .char c :: pieces rest :=
  pieces_cons_of_ne rest (ne_bracket h).1

-- The pieces of a text spell all of it.
theorem flatMap_spelling_pieces (text : Text) : (pieces text).flatMap Piece.spelling = text := by
  fun_induction pieces text with
  | case1 => rfl
  | case2 c rest piece ih =>
    obtain ⟨after, hafter⟩ := Piece.first_isPrefix c rest
    have hpiece : piece.spelling ++ after = c :: rest := hafter
    rw [List.flatMap_cons, ih, ← hpiece, List.drop_left]

@[simp] theorem markers_nil : markers [] = [] := by
  simp [markers]

@[simp] theorem unmarked_nil : unmarked [] = [] := by
  simp [unmarked]

@[simp] theorem markers_spelling_append (marker : Marker) (rest : Text) :
    markers (marker.spelling ++ rest) = marker :: markers rest := by
  simp [markers, Piece.marker?]

@[simp] theorem unmarked_spelling_append (marker : Marker) (rest : Text) :
    unmarked (marker.spelling ++ rest) = unmarked rest := by
  simp [unmarked, Piece.unmarked]

theorem markers_cons {c : Char} (rest : Text) (h : isBracket c = false) :
    markers (c :: rest) = markers rest := by
  rw [markers, pieces_cons rest h, List.filterMap_cons_none rfl, markers]

theorem unmarked_cons {c : Char} (rest : Text) (h : isBracket c = false) :
    unmarked (c :: rest) = c :: unmarked rest := by
  simp [unmarked, pieces_cons rest h, Piece.unmarked, Piece.spelling]

namespace WellMarked

variable {text left right : Text}

theorem append (hleft : WellMarked left) (hright : WellMarked right) :
    WellMarked (left ++ right) := by
  induction hleft with
  | nil => exact hright
  | char h _ ih => exact ih.char h
  | marker marker _ ih =>
    rw [List.append_assoc]
    exact ih.marker marker

theorem markers_append (hleft : WellMarked left) (right : Text) :
    markers (left ++ right) = markers left ++ markers right := by
  induction hleft with
  | nil => simp
  | char h _ ih => rw [List.cons_append, markers_cons _ h, markers_cons _ h, ih]
  | marker marker _ ih =>
    rw [List.append_assoc, markers_spelling_append, markers_spelling_append, ih, List.cons_append]

theorem unmarked_append (hleft : WellMarked left) (right : Text) :
    unmarked (left ++ right) = unmarked left ++ unmarked right := by
  induction hleft with
  | nil => simp
  | char h _ ih => rw [List.cons_append, unmarked_cons _ h, unmarked_cons _ h, ih, List.cons_append]
  | marker marker _ ih =>
    rw [List.append_assoc, unmarked_spelling_append, unmarked_spelling_append, ih]

theorem of_not_isBracket (h : ∀ c ∈ text, isBracket c = false) : WellMarked text := by
  induction text with
  | nil => exact .nil
  | cons c rest ih =>
    rw [List.forall_mem_cons] at h
    exact (ih h.2).char h.1

-- Without markers no bracket is left.
theorem not_isBracket_of_mem_unmarked (h : WellMarked text) {c : Char} (hc : c ∈ unmarked text) :
    isBracket c = false := by
  induction h with
  | nil => simp at hc
  | char h _ ih =>
    rw [unmarked_cons _ h, List.mem_cons] at hc
    rcases hc with rfl | hc
    · exact h
    · exact ih hc
  | marker marker _ ih =>
    rw [unmarked_spelling_append] at hc
    exact ih hc

theorem of_pieces (h : ∀ piece ∈ pieces text, piece.isPlain) : WellMarked text := by
  fun_induction pieces text with
  | case1 => exact .nil
  | case2 c rest piece ih =>
    rw [List.forall_mem_cons] at h
    obtain ⟨after, hafter⟩ := Piece.first_isPrefix c rest
    have hrest := ih h.2
    have hplain := h.1
    rw [← hafter] at hrest ⊢
    rw [List.drop_left] at hrest
    cases hpiece : Piece.first c rest with
    | dash => simp [piece, hpiece, Piece.isPlain] at hplain
    | tagged marker => exact hrest.marker marker
    | char c => exact hrest.char (by simpa [piece, hpiece, Piece.isPlain] using hplain)

theorem iff_pieces : WellMarked text ↔ ∀ piece ∈ pieces text, piece.isPlain := by
  refine ⟨fun h => ?_, of_pieces⟩
  induction h with
  | nil => simp
  | char h _ ih =>
    rw [pieces_cons _ h, List.forall_mem_cons]
    exact ⟨by simp [Piece.isPlain, h], ih⟩
  | marker marker _ ih =>
    rw [pieces_spelling_append, List.forall_mem_cons]
    exact ⟨rfl, ih⟩

instance (text : Text) : Decidable (WellMarked text) :=
  decidable_of_iff _ iff_pieces.symm

end WellMarked

theorem unmarked_of_not_isBracket {text : Text} (h : ∀ c ∈ text, isBracket c = false) :
    unmarked text = text := by
  induction text with
  | nil => exact unmarked_nil
  | cons c rest ih =>
    rw [List.forall_mem_cons] at h
    rw [unmarked_cons rest h.1, ih h.2]

theorem markers_of_not_isBracket {text : Text} (h : ∀ c ∈ text, isBracket c = false) :
    markers text = [] := by
  induction text with
  | nil => exact markers_nil
  | cons c rest ih =>
    rw [List.forall_mem_cons] at h
    rw [markers_cons rest h.1, ih h.2]

-- Plain text is what is left without markers.
theorem WellMarked.export_plain {text : Text} (h : WellMarked text) :
    Format.plain.export text = unmarked text := by
  induction h with
  | nil => simp [Format.export, Medium.convert]
  | char h _ ih =>
    simp only [Format.export, Medium.convert] at ih ⊢
    rw [pieces_cons _ h, List.flatMap_cons, ih, unmarked_cons _ h]
    rfl
  | marker marker _ ih =>
    simp only [Format.export, Medium.convert] at ih ⊢
    rw [pieces_spelling_append, List.flatMap_cons, ih, unmarked_spelling_append]
    obtain ⟨tag, closing⟩ := marker
    cases closing <;> rfl

end Referencing.Markup
