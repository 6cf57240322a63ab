import Referencing.Proofs.Markup.Joins
import Referencing.Text.Blank

namespace Referencing.Markup

open Text

variable {text : Text}

theorem cutLeading_eq_self (h : Marker.parse? text = none) : cutLeading text = ([], text) := by
  rw [cutLeading]
  split
  · rfl
  · next marker hmarker =>
    rw [h] at hmarker
    contradiction

theorem cutLeading_nil : cutLeading [] = ([], []) :=
  cutLeading_eq_self (parse?_eq_none (by decide))

theorem cutLeading_cons {c : Char} (rest : Text) (h : c ≠ '[') :
    cutLeading (c :: rest) = ([], c :: rest) :=
  cutLeading_eq_self (parse?_cons_of_ne rest h)

theorem cutLeading_spelling_append (marker : Marker) (rest : Text) :
    cutLeading (marker.spelling ++ rest) =
      (marker.spelling ++ (cutLeading rest).1, (cutLeading rest).2) := by
  rw [cutLeading]
  split
  · next h =>
    rw [parse?_spelling_append] at h
    exact absurd h (by simp)
  · next found h =>
    rw [parse?_spelling_append, Option.some.injEq] at h
    subst h
    rw [List.drop_left]

-- What a text begins with is markers, and then comes what a reader sees first.
theorem WellMarked.cutLeading (h : WellMarked text) :
    WellMarked (cutLeading text).1 ∧ unmarked (cutLeading text).1 = [] ∧
      unmarked (cutLeading text).2 = unmarked text ∧
      ∀ c rest, (Markup.cutLeading text).2 = c :: rest → isBracket c = false ∧ WellMarked rest := by
  induction h with
  | nil => rw [cutLeading_nil]; exact ⟨.nil, unmarked_nil, rfl, by simp⟩
  | @char c rest hc hrest _ =>
    rw [cutLeading_cons _ (ne_bracket hc).1]
    refine ⟨.nil, unmarked_nil, rfl, ?_⟩
    rintro _ _ ⟨⟩
    exact ⟨hc, hrest⟩
  | marker marker _ ih =>
    obtain ⟨hmarkers, hempty, hrest, hlead⟩ := ih
    rw [cutLeading_spelling_append]
    refine ⟨hmarkers.marker marker, ?_, ?_, hlead⟩
    · rw [unmarked_spelling_append, hempty]
    · rw [hrest, unmarked_spelling_append]

-- A character that a text begins with, and no marker before it, is what a reader
-- sees first.
theorem WellMarked.head?_trimStart (h : WellMarked text) {c : Char} (hc : isBracket c = false)
    (hhead : (trimStart text).head? = some c) : (trimStart (unmarked text)).head? = some c := by
  induction h with
  | nil => simp [trimStart] at hhead
  | @char first rest hfirst _ ih =>
    rw [unmarked_cons _ hfirst]
    rw [trimStart, List.dropWhile_cons] at hhead ⊢
    split at hhead
    · next hblank =>
      rw [if_pos hblank]
      exact ih hhead
    · next hblank =>
      rw [if_neg hblank]
      exact hhead
  | @marker marker rest _ _ =>
    have hbracket : (trimStart (marker.spelling ++ rest)).head? = some '[' := rfl
    rw [hbracket, Option.some.injEq] at hhead
    exact absurd hhead.symm (ne_bracket hc).1

theorem parseEnd?_append_spelling (text : Text) (marker : Marker) :
    Marker.parseEnd? (text ++ marker.spelling) = some marker := by
  have hend : ∀ spelling : Text, spelling.isSuffixOf (text ++ marker.spelling) =
      spelling.reverse.isPrefixOf (marker.spelling.reverse ++ text.reverse) := by
    intro spelling
    rw [List.isSuffixOf, List.reverse_append]
  simp only [Marker.parseEnd?, hend]
  obtain ⟨tag, closing⟩ := marker
  cases tag <;> cases closing <;> rfl

theorem parseEnd?_concat_of_ne {c : Char} (text : Text) (h : c ≠ ']') :
    Marker.parseEnd? (text ++ [c]) = none := by
  rw [Marker.parseEnd?, List.find?_eq_none]
  intro marker _
  simp [Marker.spelling, List.isSuffixOf, Ne.symm h]

theorem dropTrailing_append_spelling (text : Text) (marker : Marker) :
    dropTrailing (text ++ marker.spelling) = dropTrailing text := by
  rw [dropTrailing]
  split
  · next h =>
    rw [parseEnd?_append_spelling] at h
    exact absurd h (by simp)
  · next found h =>
    rw [parseEnd?_append_spelling, Option.some.injEq] at h
    subst h
    rw [List.length_append, Nat.add_sub_cancel, List.take_left]

theorem dropTrailing_concat {c : Char} (text : Text) (h : c ≠ ']') :
    dropTrailing (text ++ [c]) = text ++ [c] := by
  rw [dropTrailing]
  split
  · rfl
  · next marker hmarker =>
    rw [parseEnd?_concat_of_ne text h] at hmarker
    exact absurd hmarker (by simp)

-- What a text ends with is markers, and before them comes what a reader sees last.
theorem lastVisible_eq_getLast? (text : Text) :
    lastVisible text = (unmarked text).getLast? := by
  rw [lastVisible]
  fun_induction dropTrailing text with
  | case1 text hnone =>
    rcases List.eq_nil_or_concat' (pieces text) with hpieces | ⟨init, last, hpieces⟩
    · have htext : text = [] := by rw [← flatMap_spelling_pieces text, hpieces]; rfl
      rw [htext, unmarked_nil]
    · have htext : text = init.flatMap Piece.spelling ++ last.spelling := by
        rw [← flatMap_spelling_pieces text, hpieces, List.flatMap_append, List.flatMap_singleton]
      have hlast : last.unmarked = last.spelling := by
        cases last with
        | dash => rfl
        | char c => rfl
        | tagged marker =>
          rw [htext, Piece.spelling, parseEnd?_append_spelling] at hnone
          contradiction
      rw [unmarked, hpieces, List.flatMap_append, List.flatMap_singleton, hlast]
      conv => lhs; rw [htext]
      rw [List.getLast?_append_of_ne_nil _ last.spelling_ne_nil,
        List.getLast?_append_of_ne_nil _ last.spelling_ne_nil]
  | case2 text marker hmarker ih =>
    have hsuffix := List.isSuffixOf_iff_suffix.1 (Marker.parseEnd?_isSuffix hmarker)
    obtain ⟨init, rfl⟩ := hsuffix
    rw [List.length_append, Nat.add_sub_cancel, List.take_left] at ih
    rw [List.length_append, Nat.add_sub_cancel, List.take_left, ih, unmarked, unmarked,
      pieces_append_spelling, List.flatMap_append]
    simp [Piece.unmarked]

end Referencing.Markup
