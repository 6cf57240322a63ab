import Referencing.Proofs.Text.Trimmed
import Referencing.Text.Alphabetic
import Referencing.Text.LetterCase
import Referencing.Text.WordCharacter

namespace Referencing.Text

theorem toNat_ofNat (n : Nat) : (Char.ofNat n).toNat = n ∨ Char.ofNat n = Char.ofNat 0 := by
  by_cases h : n.isValidChar
  · refine .inl ?_
    rw [Char.ofNat, dif_pos h]
    rfl
  · refine .inr ?_
    rw [Char.ofNat, dif_neg h]
    rfl

-- An image that is another character is neither blank nor a comma nor a hyphen.
theorem eq_or_of_mem_upperOf {c d : Char} (h : d ∈ upperOf c) :
    d = c ∨ isBlank d = false ∧ d ∉ [',', '-'] := by
  have hexpanded : ∀ entry ∈ upperExpanded, ∀ point ∈ entry.2,
      isBlank (Char.ofNat point) = false ∧ Char.ofNat point ∉ [',', '-'] := by decide +kernel
  have hruns : ∀ run ∈ upperRuns, '-'.toNat < run.2.2.2 ∧ ∀ range ∈ blankRanges,
      run.2.2.2 + (run.2.1 - run.1) < range.1 ∨ range.2 < run.2.2.2 := by decide +kernel
  rcases mem_upperOf h with hsame | ⟨entry, hentry, point, hpoint, rfl⟩ |
    ⟨run, hrun, point, hleast, hmost, rfl⟩
  · exact .inl hsame
  · exact .inr (hexpanded entry hentry point hpoint)
  · obtain ⟨hmark, hapart⟩ := hruns run hrun
    rcases toNat_ofNat point with hpoint | hzero
    · refine .inr ⟨?_, fun hmem => ?_⟩
      · by_contra hblank
        rw [Bool.not_eq_false, isBlank, hpoint] at hblank
        obtain ⟨range, hrange, hin⟩ := exists_range_of_within hblank
        have hsides := hapart range hrange
        omega
      · have hlow : (Char.ofNat point).toNat ≤ '-'.toNat := by
          rcases List.mem_pair.1 hmem with hsame | hsame
          all_goals simp [hsame]
        omega
    · rw [hzero]
      exact .inr (by decide)

-- No number is in ranges that all lie apart from those it is in.
theorem within_eq_false_of_apart {left right : List (Nat × Nat)} {n : Nat}
    (happart : ∀ range ∈ left, ∀ other ∈ right, range.2 < other.1 ∨ other.2 < range.1)
    (h : within left n) : within right n = false := by
  by_contra hright
  rw [Bool.not_eq_false] at hright
  obtain ⟨range, hrange, hin⟩ := exists_range_of_within h
  obtain ⟨other, hother, hin'⟩ := exists_range_of_within hright
  have hsides := happart range hrange other hother
  omega

theorem not_blank_of_isAlphabetic {c : Char} (h : isAlphabetic c) : isBlank c = false :=
  within_eq_false_of_apart (by decide +kernel) h

-- White space is not part of a word.
theorem not_word_of_isBlank {c : Char} (h : isBlank c) : isWordCharacter c = false := by
  have hletter : isAlphabetic c = false := by
    by_contra hletter
    rw [Bool.not_eq_false] at hletter
    rw [not_blank_of_isAlphabetic hletter] at h
    contradiction
  have happart : ∀ range ∈ blankRanges, ∀ other ∈ wordExtraRanges,
      range.2 < other.1 ∨ other.2 < range.1 := by decide +kernel
  have hextra : within wordExtraRanges c.toNat = false := within_eq_false_of_apart happart h
  rw [isWordCharacter, hletter, hextra, Bool.or_self]

theorem not_blank_of_mem_upperOf {c d : Char} (h : d ∈ upperOf c) (hc : isBlank c = false) :
    isBlank d = false := by
  rcases eq_or_of_mem_upperOf h with rfl | ⟨hd, -⟩
  · exact hc
  · exact hd

theorem eq_of_mark_mem_upperOf {c mark : Char} (hmark : mark ∈ [',', '-'])
    (h : mark ∈ upperOf c) : c = mark := by
  rcases eq_or_of_mem_upperOf h with hsame | ⟨-, hnot⟩
  · exact hsame.symm
  · exact absurd hmark hnot

theorem upper_eq_nil_iff {text : Text} : upper text = [] ↔ text = [] := by
  cases text with
  | nil => simp [upper]
  | cons c rest => simp [upper, upperOf_ne_nil]

theorem mem_upperOf_of_head?_upper {text : Text} {d : Char} (h : d ∈ (upper text).head?) :
    ∃ c ∈ text.head?, d ∈ upperOf c := by
  cases text with
  | nil => simp [upper] at h
  | cons c rest =>
    rw [upper, List.flatMap_cons, List.head?_append_of_ne_nil _ (upperOf_ne_nil c)] at h
    exact ⟨c, rfl, List.mem_of_mem_head? h⟩

theorem mem_upperOf_of_getLast?_upper {text : Text} {d : Char} (h : d ∈ (upper text).getLast?) :
    ∃ c ∈ text.getLast?, d ∈ upperOf c := by
  rcases List.eq_nil_or_concat' text with rfl | ⟨init, c, rfl⟩
  · simp [upper] at h
  · have hlast : upper (init ++ [c]) = upper init ++ upperOf c := by simp [upper]
    rw [hlast, List.getLast?_append_of_ne_nil _ (upperOf_ne_nil c)] at h
    exact ⟨c, by simp, List.mem_of_getLast? h⟩

theorem IsTrimmed.upper {text : Text} (h : IsTrimmed text) : IsTrimmed (upper text) where
  first := by
    intro d hd
    obtain ⟨c, hc, hmem⟩ := mem_upperOf_of_head?_upper hd
    exact not_blank_of_mem_upperOf hmem (h.first c hc)
  last := by
    intro d hd
    obtain ⟨c, hc, hmem⟩ := mem_upperOf_of_getLast?_upper hd
    exact not_blank_of_mem_upperOf hmem (h.last c hc)

end Referencing.Text
