import Referencing.Proofs.Markup.WellMarked
import Referencing.Proofs.Text.Trimmed
import Referencing.Template.Render

namespace Referencing.Template

open Text Markup

-- Nothing but loose characters is left out, and what is kept stays in its order.
structure Thinned (loose : Char → Bool) (text kept : Text) : Prop where
  sublist : kept.Sublist text
  firm : kept.filter (!loose ·) = text.filter (!loose ·)

namespace Thinned

variable {loose : Char → Bool} {text kept rest : Text}

theorem refl (text : Text) : Thinned loose text text :=
  ⟨.refl text, rfl⟩

theorem trans (h : Thinned loose text kept) (h' : Thinned loose kept rest) :
    Thinned loose text rest :=
  ⟨h'.sublist.trans h.sublist, h'.firm.trans h.firm⟩

theorem append {other : Text} (h : Thinned loose text kept) (h' : Thinned loose other rest) :
    Thinned loose (text ++ other) (kept ++ rest) :=
  ⟨h.sublist.append h'.sublist, by rw [List.filter_append, List.filter_append, h.firm, h'.firm]⟩

theorem drop {c : Char} (before after : Text) (h : loose c) :
    Thinned loose (before ++ c :: after) (before ++ after) where
  sublist := (List.Sublist.refl before).append (List.sublist_cons_self c after)
  firm := by simp [h]

theorem drop_cons {c : Char} (h : loose c) (h' : Thinned loose text kept) :
    Thinned loose (c :: text) kept :=
  (drop [] text h).trans h'

theorem cons (c : Char) (h : Thinned loose text kept) : Thinned loose (c :: text) (c :: kept) :=
  (refl [c]).append h

theorem reverse (h : Thinned loose text kept) : Thinned loose text.reverse kept.reverse :=
  ⟨h.sublist.reverse, by rw [List.filter_reverse, List.filter_reverse, h.firm]⟩

-- More characters may be loose.
theorem mono {looser : Char → Bool} (hmono : ∀ c, loose c → looser c)
    (h : Thinned loose text kept) : Thinned looser text kept where
  sublist := h.sublist
  firm := by
    have hfilter : ∀ text : Text,
        (text.filter (!loose ·)).filter (!looser ·) = text.filter (!looser ·) := by
      intro text
      rw [List.filter_filter]
      refine List.filter_congr fun c _ => ?_
      cases hc : loose c with
      | false => simp
      | true => simp [hmono c hc]
    rw [← hfilter, h.firm, hfilter]

-- A text that begins with nothing loose keeps its beginning.
theorem of_firm_append (firm : Text) (hfirm : ∀ c ∈ firm, loose c = false)
    (h : Thinned loose (firm ++ text) kept) :
    ∃ rest, kept = firm ++ rest ∧ Thinned loose text rest := by
  obtain ⟨start, rest, rfl, hstart, hrest⟩ := List.sublist_append_iff.1 h.sublist
  have hkept : firm.filter (!loose ·) = firm := by
    rw [List.filter_eq_self]
    intro c hc
    simp [hfirm c hc]
  have hequal := h.firm
  rw [List.filter_append, List.filter_append, hkept] at hequal
  have hlength := congrArg List.length hequal
  rw [List.length_append, List.length_append] at hlength
  have hstartLength := hstart.length_le
  have hfilterLength := List.length_filter_le (!loose ·) start
  have hrestLength := (hrest.filter (!loose ·)).length_le
  obtain rfl : start = firm := hstart.eq_of_length (by omega)
  rw [hkept] at hequal
  exact ⟨rest, rfl, hrest, List.append_cancel_left hequal⟩

-- The first character is kept, or it is loose.
theorem of_cons {c : Char} (h : Thinned loose (c :: text) kept) :
    (∃ rest, kept = c :: rest ∧ Thinned loose text rest) ∨ (loose c ∧ Thinned loose text kept) := by
  cases hc : loose c with
  | false =>
    obtain ⟨rest, rfl, hrest⟩ := of_firm_append [c] (by simpa using hc) h
    exact .inl ⟨rest, rfl, hrest⟩
  | true =>
    have hfirm := h.firm
    rcases List.sublist_cons_iff.1 h.sublist with hsub | ⟨rest, rfl, hsub⟩
    · exact .inr ⟨rfl, hsub, by simpa [hc] using hfirm⟩
    · exact .inl ⟨rest, rfl, hsub, by simpa [hc] using hfirm⟩

end Thinned

theorem thinned_collapseSpaces (text : Text) : Thinned isBlank text (collapseSpaces text) := by
  fun_induction collapseSpaces text with
  | case1 rest ih => exact .drop_cons (by decide) ih
  | case2 c rest _ ih => exact ih.cons c
  | case3 => exact .refl []

theorem thinned_trimStart (text : Text) : Thinned isBlank text (trimStart text) := by
  induction text with
  | nil => exact .refl []
  | cons c rest ih =>
    by_cases h : isBlank c
    · rw [trimStart, List.dropWhile_cons_of_pos h]
      exact .drop_cons h ih
    · rw [trimStart, List.dropWhile_cons_of_neg h]
      exact .refl _

theorem thinned_trimEnd (text : Text) : Thinned isBlank text (trimEnd text) := by
  have h := (thinned_trimStart text.reverse).reverse
  rwa [List.reverse_reverse] at h

theorem thinned_trim (text : Text) : Thinned isBlank text (trim text) :=
  (thinned_trimStart text).trans (thinned_trimEnd _)

-- What clean-up may leave out.
def isLoose (c : Char) : Bool :=
  isBlank c || isPunctuation c

theorem isLoose_of_isBlank (c : Char) (h : isBlank c) : isLoose c := by
  simp [isLoose, h]

theorem isLoose_of_isPunctuation (c : Char) (h : isPunctuation c) : isLoose c := by
  simp [isLoose, h]

theorem isBracket_of_isLoose {c : Char} (h : isLoose c) : isBracket c = false := by
  cases hbracket : isBracket c with
  | false => rfl
  | true =>
    simp only [isBracket, Bool.or_eq_true, decide_eq_true_eq] at hbracket
    rcases hbracket with rfl | rfl <;> exact absurd h (by decide)

theorem not_isLoose_of_mem_spelling {marker : Marker} {c : Char} (h : c ∈ marker.spelling) :
    isLoose c = false := by
  obtain ⟨tag, closing⟩ := marker
  have hall : (Marker.mk tag closing).spelling.all (!isLoose ·) := by
    cases tag <;> cases closing <;> rfl
  simpa using List.all_eq_true.1 hall c h

-- Markers are neither blank nor punctuation, so thinning keeps them all.
theorem Thinned.wellMarked {loose : Char → Bool} {text kept : Text}
    (hloose : ∀ c, loose c → isLoose c) (h : Thinned loose text kept) (htext : WellMarked text) :
    WellMarked kept ∧ markers kept = markers text ∧
      Thinned loose (unmarked text) (unmarked kept) := by
  induction htext generalizing kept with
  | nil =>
    obtain rfl := List.sublist_nil.1 h.sublist
    exact ⟨.nil, rfl, .refl _⟩
  | @char c rest hc _ ih =>
    rw [markers_cons rest hc, unmarked_cons rest hc]
    rcases h.of_cons with ⟨kept, rfl, hkept⟩ | ⟨hdropped, hkept⟩
    · obtain ⟨hmarked, hmarkers, hunmarked⟩ := ih hkept
      rw [markers_cons kept hc, unmarked_cons kept hc]
      exact ⟨hmarked.char hc, hmarkers, hunmarked.cons c⟩
    · obtain ⟨hmarked, hmarkers, hunmarked⟩ := ih hkept
      exact ⟨hmarked, hmarkers, hunmarked.drop_cons hdropped⟩
  | marker marker _ ih =>
    have hfirm : ∀ c ∈ marker.spelling, loose c = false := by
      intro c hc
      have hnot := not_isLoose_of_mem_spelling hc
      cases hcase : loose c with
      | false => rfl
      | true => rw [hloose c hcase] at hnot; exact hnot
    obtain ⟨kept, rfl, hkept⟩ := h.of_firm_append marker.spelling hfirm
    obtain ⟨hmarked, hmarkers, hunmarked⟩ := ih hkept
    rw [markers_spelling_append, markers_spelling_append, unmarked_spelling_append,
      unmarked_spelling_append, hmarkers]
    exact ⟨hmarked.marker marker, rfl, hunmarked⟩

-- At most one character is lost, and it is a punctuation mark.
def LosesMark (text kept : Text) : Prop :=
  kept = text ∨
    ∃ before c after, isPunctuation c ∧ text = before ++ c :: after ∧ kept = before ++ after

theorem LosesMark.thinned {text kept : Text} (h : LosesMark text kept) :
    Thinned isLoose text kept := by
  rcases h with rfl | ⟨before, c, after, hc, rfl, rfl⟩
  · exact .refl _
  · exact .drop before after (isLoose_of_isPunctuation c hc)

theorem isPunctuation_of_isIdle {last next : Char} (h : isIdle last next) : isPunctuation next := by
  simp only [isIdle, Bool.or_eq_true, Bool.and_eq_true, decide_eq_true_eq] at h
  rcases h with ⟨hlast, rfl⟩ | ⟨-, rfl⟩
  · exact hlast
  · decide

theorem losesMark_dropIdle (last : Option Char) (text : Text) :
    LosesMark text (dropIdle last text) := by
  have hcut := cutLeading_append text
  unfold dropIdle
  split
  · next last markers c rest hmarkers =>
    rw [hmarkers] at hcut
    split
    · next hidle => exact .inr ⟨markers, c, rest, isPunctuation_of_isIdle hidle, hcut.symm, rfl⟩
    · exact .inl rfl
  · exact .inl rfl

-- A value is shortened by nothing but a mark that stands before it.
theorem dropRepeated_cases (last : Option Char) (value : Text) :
    dropRepeated last value = value ∨
      ∃ mark, isPunctuation mark ∧ last = some mark ∧ value = mark :: dropRepeated last value := by
  unfold dropRepeated
  split
  · next last c rest =>
    split
    · next hrepeated =>
      simp only [Bool.and_eq_true, decide_eq_true_eq] at hrepeated
      obtain ⟨hpunctuation, rfl⟩ := hrepeated
      exact .inr ⟨c, hpunctuation, rfl, rfl⟩
    · exact .inl rfl
  · exact .inl rfl

theorem losesMark_dropRepeated (last : Option Char) (value : Text) :
    LosesMark value (dropRepeated last value) := by
  rcases dropRepeated_cases last value with hsame | ⟨mark, hmark, -, hvalue⟩
  · exact .inl hsame
  · exact .inr ⟨[], mark, dropRepeated last value, hmark, hvalue, rfl⟩

theorem dropRepeated_eq_self {last : Option Char} {value : Text}
    (h : ∀ c ∈ value.head?, last = some c → ¬isPunctuation c) : dropRepeated last value = value := by
  rcases dropRepeated_cases last value with hsame | ⟨mark, hmark, hlast, hvalue⟩
  · exact hsame
  · have hhead : mark ∈ value.head? := by
      rw [hvalue]
      rfl
    exact absurd hmark (h mark hhead hlast)

end Referencing.Template
