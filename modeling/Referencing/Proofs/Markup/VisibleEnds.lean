import Referencing.Proofs.Markup.LookAround
import Referencing.Proofs.Markup.Scanning

namespace Referencing.Markup

open Text

-- The characters of a text that begins at a byte, each with the byte where it stands.
def placesFrom (start : Nat) : Text → List (Nat × Char)
  | [] => []
  | c :: rest => (start, c) :: placesFrom (start + c.utf8Size) rest

def visibleFrom (start : Nat) : List Piece → List (Nat × Char)
  | [] => []
  | piece :: rest =>
    placesFrom start piece.unmarked ++ visibleFrom (start + size piece.spelling) rest

-- What is left of a text when its markers are dropped in one pass from the left to the
-- right, each character with the byte where it stands in the whole text.
def visible (text : Text) : List (Nat × Char) :=
  visibleFrom 0 (pieces text)

-- A medium that drops markers and leaves all else as it is, dashes too.
def Medium.bare : Medium :=
  { Medium.plain with ndash := dashMark }

section Places

theorem map_snd_placesFrom (start : Nat) (text : Text) :
    (placesFrom start text).map (·.2) = text := by
  induction text generalizing start with
  | nil => rfl
  | cons c rest ih => rw [placesFrom, List.map_cons, ih]

theorem map_snd_visible (text : Text) : (visible text).map (·.2) = unmarked text := by
  rw [visible, unmarked]
  generalize 0 = start
  induction pieces text generalizing start with
  | nil => rfl
  | cons piece rest ih =>
    rw [visibleFrom, List.map_append, map_snd_placesFrom, ih, List.flatMap_cons]

theorem exists_of_mem_placesFrom {start : Nat} {text : Text} {place : Nat × Char}
    (h : place ∈ placesFrom start text) :
    ∃ before after, text = before ++ place.2 :: after ∧ place.1 = start + size before := by
  induction text generalizing start with
  | nil => simp [placesFrom] at h
  | cons c rest ih =>
    rcases List.mem_cons.1 h with rfl | hrest
    · exact ⟨[], rest, rfl, rfl⟩
    · obtain ⟨before, after, rfl, hplace⟩ := ih hrest
      exact ⟨c :: before, after, rfl, by rw [hplace, size_cons, Nat.add_assoc]⟩

theorem exists_of_mem_visibleFrom {start : Nat} {pieces : List Piece} {place : Nat × Char}
    (h : place ∈ visibleFrom start pieces) :
    ∃ before after, pieces.flatMap Piece.spelling = before ++ place.2 :: after ∧
      place.1 = start + size before := by
  induction pieces generalizing start with
  | nil => simp [visibleFrom] at h
  | cons piece rest ih =>
    rw [List.flatMap_cons]
    rcases List.mem_append.1 h with hpiece | hrest
    · obtain ⟨before, after, hunmarked, hplace⟩ := exists_of_mem_placesFrom hpiece
      have hspelling : piece.spelling = before ++ place.2 :: after := by
        cases piece with
        | tagged marker => simp [Piece.unmarked, placesFrom] at hpiece
        | dash => exact hunmarked
        | char c => exact hunmarked
      refine ⟨before, after ++ rest.flatMap Piece.spelling, ?_, hplace⟩
      rw [hspelling, List.append_assoc, List.cons_append]
    · obtain ⟨before, after, hspelling, hplace⟩ := ih hrest
      refine ⟨piece.spelling ++ before, after, by rw [hspelling, List.append_assoc], ?_⟩
      rw [hplace, size_append, Nat.add_assoc]

-- The first character that is left stands behind the markers that the text begins with.
theorem head?_visibleFrom (start : Nat) (text : Text) :
    (visibleFrom start (pieces text)).head? =
      (cutLeading text).2.head?.map fun c => (start + size (cutLeading text).1, c) := by
  induction text using pieces_induction generalizing start with
  | nil => rw [pieces_nil, cutLeading_nil]; rfl
  | dash rest _ =>
    have hnone : Marker.parse? (dashMark ++ rest) = none := rfl
    rw [pieces_dashMark_append, cutLeading_eq_self hnone]
    rfl
  | tagged marker rest ih =>
    rw [pieces_spelling_append, cutLeading_spelling_append, size_append, ← Nat.add_assoc]
    exact ih (start + size marker.spelling)
  | char c rest h _ =>
    rw [pieces_cons_of_not_mark h, cutLeading_eq_self (parse?_eq_none h)]
    rfl

theorem unmarked_cutLeading (text : Text) : unmarked (cutLeading text).1 = [] := by
  fun_induction cutLeading text with
  | case1 text _ => exact unmarked_nil
  | case2 text marker _ markers rest hrest ih =>
    rw [hrest] at ih
    rw [unmarked_spelling_append, ih]

end Places

section Seeking

-- The text behind the cursor decides what the first search does next.
theorem firstFrom?_eq (before rest : Text) :
    firstFrom? (before ++ rest) (size before) =
      match markerAt? rest with
      | some (_, length) => firstFrom? (before ++ rest) (size before + length)
      | none => some (rest.head?.map fun c => (size before, c)) := by
  rw [firstFrom?]
  split
  · next hnone =>
    rw [cutAtByte?_size] at hnone
    contradiction
  · next hcut =>
    rw [cutAtByte?_size, Option.some.injEq, Prod.mk.injEq] at hcut
    obtain ⟨rfl, rfl⟩ := hcut
    split <;> simp_all

theorem firstFrom?_size (before rest : Text) :
    firstFrom? (before ++ rest) (size before) =
      some ((cutLeading rest).2.head?.map fun c => (size before + size (cutLeading rest).1, c)) := by
  fun_induction cutLeading rest generalizing before with
  | case1 rest hnone =>
    have hmarker : markerAt? rest = none := by rw [markerAt?_eq, hnone, Option.map_none]
    rw [firstFrom?_eq, hmarker, size_nil, Nat.add_zero]
  | case2 rest marker hmarker markers others hothers ih =>
    obtain ⟨after, rfl⟩ := List.isPrefixOf_iff_prefix.1 (Marker.parse?_isPrefix hmarker)
    rw [List.drop_left] at hothers ih
    have hstep : firstFrom? (before ++ (marker.spelling ++ after)) (size before) =
        firstFrom? (before ++ marker.spelling ++ after) (size (before ++ marker.spelling)) := by
      rw [firstFrom?_eq, markerAt?_spelling_append, List.append_assoc, size_append]
    rw [hstep, ih, hothers, size_append, size_append, Nat.add_assoc]

theorem beforeLast?_append {mark : Char} (before : Text) {after : Text} (h : mark ∉ after) :
    beforeLast? mark (before ++ mark :: after) = some before := by
  have hreverse : (before ++ mark :: after).reverse = after.reverse ++ mark :: before.reverse := by
    simp
  rw [beforeLast?, hreverse, cut?_append _ (by simpa using h), Option.map_some, List.reverse_reverse]

theorem exists_of_beforeLast? {mark : Char} {text before : Text}
    (h : beforeLast? mark text = some before) :
    ∃ after, text = before ++ mark :: after ∧ mark ∉ after := by
  obtain ⟨⟨after, rest⟩, hcut, rfl⟩ := Option.map_eq_some_iff.1 h
  obtain ⟨htext, hnot⟩ := eq_of_cut? hcut
  refine ⟨after.reverse, ?_, by simpa using hnot⟩
  rw [← List.reverse_reverse text, htext]
  simp

theorem lastBefore?_of_not_opening {before : Text} (after : Text)
    (h : beforeLast? '[' before = none) :
    lastBefore? (before ++ after) (size before) = some before.getLast? := by
  rw [lastBefore?, cutAtByte?_size]
  simp only [h, ite_self]

-- Behind the last bracket that opens there is a whole marker, which is passed over, or the
-- search has come to its end.
theorem lastBefore?_append_spelling (before after : Text) (marker : Marker) :
    lastBefore? (before ++ marker.spelling ++ after) (size (before ++ marker.spelling)) =
      lastBefore? (before ++ marker.spelling ++ after) (size before) := by
  have hinside : '[' ∉ marker.inside ++ [']'] := by
    obtain ⟨tag, closing⟩ := marker
    cases tag <;> cases closing <;> decide
  have hlast : beforeLast? '[' (before ++ marker.spelling) = some before := by
    rw [marker.spelling_eq, beforeLast?_append before hinside]
  have hclosing : (before ++ marker.spelling).getLast? = some ']' := by
    rw [marker.spelling_eq, ← List.cons_append, ← List.append_assoc, List.getLast?_concat]
  have hmarker : markerAt? marker.spelling = some (marker, size marker.spelling) := by
    simpa using markerAt?_spelling_append marker []
  rw [lastBefore?, cutAtByte?_size]
  simp only [hclosing, hlast, slice?_size, if_true]
  split
  · next hfound =>
    rw [hmarker, Option.some.injEq, Prod.mk.injEq] at hfound
    rw [dif_pos (by rw [size_append, hfound.2])]
  · next hnone =>
    rw [hmarker] at hnone
    contradiction

theorem lastBefore?_of_not_spelling {inside : Text} (before after : Text) (h : '[' ∉ inside)
    (hspelling : ∀ marker : Marker, marker.spelling ≠ '[' :: inside) :
    lastBefore? (before ++ '[' :: inside ++ after) (size (before ++ '[' :: inside)) =
      some (before ++ '[' :: inside).getLast? := by
  rw [lastBefore?, cutAtByte?_size]
  simp only [beforeLast?_append before h, slice?_size]
  split
  · split
    · next marker length hfound =>
      rw [dif_neg]
      intro hlength
      rw [markerAt?_eq] at hfound
      obtain ⟨found, hparse, hsame⟩ := Option.map_eq_some_iff.1 hfound
      obtain ⟨rest, hrest⟩ := List.isPrefixOf_iff_prefix.1 (Marker.parse?_isPrefix hparse)
      have hsize : size rest = 0 := by
        have := congrArg size hrest
        rw [size_append] at this hlength
        simp only [Prod.mk.injEq] at hsame
        omega
      rw [size_eq_zero_iff.1 hsize, List.append_nil] at hrest
      exact hspelling found hrest
    · rfl
  · rfl

theorem lastBefore?_size (before after : Text) :
    lastBefore? (before ++ after) (size before) = some (lastVisible before) := by
  rw [lastVisible]
  fun_induction dropTrailing before generalizing after with
  | case1 before hnone =>
    cases hlast : beforeLast? '[' before with
    | none => exact lastBefore?_of_not_opening after hlast
    | some left =>
      obtain ⟨inside, rfl, hinside⟩ := exists_of_beforeLast? hlast
      refine lastBefore?_of_not_spelling left after hinside fun marker hmarker => ?_
      rw [← hmarker, parseEnd?_append_spelling] at hnone
      contradiction
  | case2 before marker hmarker ih =>
    obtain ⟨left, rfl⟩ := List.isSuffixOf_iff_suffix.1 (Marker.parseEnd?_isSuffix hmarker)
    rw [List.length_append, Nat.add_sub_cancel, List.take_left] at ih ⊢
    rw [lastBefore?_append_spelling, List.append_assoc, ih]

end Seeking

-- The characters that are left without markers are those that stand in the text at their
-- bytes, and those that a driver writes that drops markers alone. What is looked for at
-- either end is the first and the last of them: the searches by bytes cut no character and
-- find it, the first one with its byte, and so do those that cut markers off.
theorem ends_eq_ends_of_visible (text : Text) :
    (∃ scan, Medium.bare.scan? text = some scan ∧ scan.written = (visible text).map (·.2)) ∧
      (∀ place ∈ visible text, ∃ before after,
        text = before ++ place.2 :: after ∧ place.1 = size before) ∧
      firstFrom? text 0 = some (visible text).head? ∧
      (cutLeading text).2.head?.map (fun c => (size (cutLeading text).1, c)) =
        (visible text).head? ∧
      unmarked (cutLeading text).1 = [] ∧
      firstVisible text = (visible text).head?.map (·.2) ∧
      lastBefore? text (size text) = some ((visible text).getLast?.map (·.2)) ∧
      lastVisible text = (visible text).getLast?.map (·.2) := by
  have hfirst : (cutLeading text).2.head?.map (fun c => (size (cutLeading text).1, c)) =
      (visible text).head? := by
    simpa [visible] using (head?_visibleFrom 0 text).symm
  have hlast : lastVisible text = (visible text).getLast?.map (·.2) := by
    rw [lastVisible_eq_getLast?, ← map_snd_visible, List.getLast?_map]
  refine ⟨⟨_, scan?_eq Medium.bare text, ?_⟩, fun place hplace => ?_, ?_, hfirst,
    unmarked_cutLeading text, ?_, ?_, hlast⟩
  · have hwrite : Medium.bare.write = Piece.unmarked := by
      funext piece
      cases piece with
      | dash => rfl
      | tagged marker =>
        obtain ⟨tag, closing⟩ := marker
        cases closing <;> rfl
      | char c => rfl
    rw [map_snd_visible, unmarked, ← hwrite]
    rfl
  · obtain ⟨before, after, hspelling, hbyte⟩ := exists_of_mem_visibleFrom hplace
    rw [flatMap_spelling_pieces] at hspelling
    exact ⟨before, after, hspelling, by rw [hbyte, Nat.zero_add]⟩
  · rw [← hfirst]
    simpa using firstFrom?_size [] text
  · rw [← hfirst, Option.map_map]
    simp [firstVisible, Function.comp_def]
  · rw [← hlast]
    simpa using lastBefore?_size text []

-- In one pass: what is left may look like a marker.
example : visible "[i][[u]b]é".toList = [(3, '['), (7, 'b'), (8, ']'), (9, 'é')] := by
  decide +kernel

end Referencing.Markup
