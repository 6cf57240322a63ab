import Mathlib.Data.List.Basic
import Mathlib.Data.List.TakeWhile
import Referencing.Text.Blank

namespace Referencing.Text

-- No white space at either end.
structure IsTrimmed (text : Text) : Prop where
  first : ∀ c ∈ text.head?, isBlank c = false
  last : ∀ c ∈ text.getLast?, isBlank c = false

theorem isTrimmed_of_not_blank {text : Text} (h : ∀ c ∈ text, isBlank c = false) :
    IsTrimmed text where
  first := fun c hc => h c (List.mem_of_mem_head? hc)
  last := fun c hc => h c (List.mem_of_getLast? hc)

-- What stands in the middle does not matter.
theorem IsTrimmed.append {left right : Text} (hleft : IsTrimmed left) (hright : IsTrimmed right)
    (hleftNe : left ≠ []) (hrightNe : right ≠ []) (middle : Text) :
    IsTrimmed (left ++ middle ++ right) where
  first := by
    intro c hc
    rw [List.append_assoc, List.head?_append_of_ne_nil _ hleftNe] at hc
    exact hleft.first c hc
  last := by
    intro c hc
    rw [List.getLast?_append_of_ne_nil _ hrightNe] at hc
    exact hright.last c hc

theorem isTrimmed_join {pieces : List Text} (separator : Text)
    (hne : ∀ piece ∈ pieces, piece ≠ []) (h : ∀ piece ∈ pieces, IsTrimmed piece) :
    IsTrimmed (join separator pieces) := by
  induction pieces with
  | nil => exact isTrimmed_of_not_blank (by simp [join])
  | cons piece rest ih =>
    rw [List.forall_mem_cons] at hne h
    cases rest with
    | nil => exact h.1
    | cons next rest =>
      have hrest : join separator (next :: rest) ≠ [] := by
        have hnext := hne.2 next List.mem_cons_self
        cases rest <;> simp [join, hnext]
      exact h.1.append (ih hne.2 h.2) hne.1 hrest separator

theorem head?_join {piece : Text} (separator : Text) (pieces : List Text) (h : piece ≠ []) :
    (join separator (piece :: pieces)).head? = piece.head? := by
  cases pieces with
  | nil => rfl
  | cons next rest => rw [join, List.append_assoc, List.head?_append_of_ne_nil _ h]; simp

theorem join_eq_nil_iff {pieces : List Text} (separator : Text)
    (hne : ∀ piece ∈ pieces, piece ≠ []) : join separator pieces = [] ↔ pieces = [] := by
  cases pieces with
  | nil => simp [join]
  | cons piece rest =>
    have hpiece := hne piece List.mem_cons_self
    cases rest <;> simp [join, hpiece]

theorem join_append {left right : List Text} (separator : Text) (hleft : left ≠ [])
    (hright : right ≠ []) :
    join separator (left ++ right) = join separator left ++ separator ++ join separator right := by
  induction left with
  | nil => exact absurd rfl hleft
  | cons piece rest ih =>
    cases rest with
    | nil =>
      obtain ⟨next, others, rfl⟩ := List.exists_cons_of_ne_nil hright
      rfl
    | cons next rest =>
      have hrest := ih (List.cons_ne_nil next rest)
      have hsplit : join separator (piece :: next :: rest ++ right) =
          piece ++ separator ++ join separator (next :: rest ++ right) := rfl
      rw [hsplit, hrest]
      simp [join]

section Trim

theorem head?_trimStart_not_blank (text : Text) : ∀ c ∈ (trimStart text).head?, isBlank c = false := by
  intro c hc
  have hfirst := List.head?_dropWhile_not isBlank text
  rw [show (text.dropWhile isBlank).head? = some c from hc] at hfirst
  exact hfirst

theorem trimStart_isSuffix (text : Text) : trimStart text <:+ text :=
  List.dropWhile_suffix isBlank

theorem trimEnd_append {blanks : Text} (text : Text) (h : ∀ c ∈ blanks, isBlank c) :
    trimEnd (text ++ blanks) = trimEnd text := by
  rw [trimEnd, List.reverse_append, List.dropWhile_append_of_pos (by simpa using h), trimEnd]

theorem trimEnd_append_blank (text : Text) :
    ∃ blanks, (∀ c ∈ blanks, isBlank c) ∧ text = trimEnd text ++ blanks := by
  refine ⟨(leadingBlank text.reverse).reverse, fun c hc => ?_, ?_⟩
  · exact List.all_eq_true.1 List.all_takeWhile c (List.mem_reverse.1 hc)
  · have hcut := congrArg List.reverse (leadingBlank_append_trimStart text.reverse)
    rw [List.reverse_append, List.reverse_reverse] at hcut
    exact hcut.symm

theorem trimEnd_eq_self {text : Text} (h : text.getLast?.any isBlank = false) :
    trimEnd text = text := by
  rcases List.eq_nil_or_concat text with rfl | ⟨init, c, rfl⟩
  · rfl
  · have hc : isBlank c = false := by simpa using h
    simp [trimEnd, hc]

theorem trimEnd_isPrefix (text : Text) : trimEnd text <+: text := by
  obtain ⟨blanks, -, htext⟩ := trimEnd_append_blank text
  exact ⟨blanks, htext.symm⟩

theorem trim_isInfix (text : Text) : trim text <:+: text :=
  (trimEnd_isPrefix _).isInfix.trans (trimStart_isSuffix text).isInfix

theorem trimEnd_eq_nil_iff {text : Text} : trimEnd text = [] ↔ isBlankText text := by
  simp [trimEnd, isBlankText, List.dropWhile_eq_nil_iff]

theorem trimStart_eq_nil_iff {text : Text} : trimStart text = [] ↔ isBlankText text := by
  simp [trimStart, isBlankText, List.dropWhile_eq_nil_iff]

-- After blanks are dropped at the beginning, none is dropped there again.
theorem head?_trim (text : Text) : (trim text).head? = (trimStart text).head? := by
  cases hrest : trimStart text with
  | nil => simp [trim, hrest, trimEnd]
  | cons c rest =>
    have hc := head?_trimStart_not_blank text c (by rw [hrest]; rfl)
    obtain ⟨blanks, hcut⟩ := trimEnd_isPrefix (trimStart text)
    have hne : trimEnd (trimStart text) ≠ [] := by
      rw [Ne, trimEnd_eq_nil_iff, hrest]
      simp [isBlankText, hc]
    have hhead := congrArg List.head? hcut
    rw [List.head?_append_of_ne_nil _ hne, hrest] at hhead
    rwa [trim, hrest]

theorem trim_eq_nil_iff {text : Text} : trim text = [] ↔ isBlankText text := by
  rw [← List.head?_eq_none_iff, head?_trim, List.head?_eq_none_iff, trimStart_eq_nil_iff]

theorem isTrimmed_trim (text : Text) : IsTrimmed (trim text) where
  first := by
    rw [head?_trim]
    exact head?_trimStart_not_blank text
  last := by
    intro c hc
    rw [trim, trimEnd, List.getLast?_reverse] at hc
    exact head?_trimStart_not_blank _ c hc

theorem trimStart_eq_self {text : Text} (h : ∀ c ∈ text.head?, isBlank c = false) :
    trimStart text = text := by
  cases text with
  | nil => rfl
  | cons c rest =>
    have hc : ¬isBlank c = true := by simp [h c rfl]
    exact List.dropWhile_cons_of_neg hc

theorem trimStart_append {text rest : Text} (h : ∀ c ∈ rest.head?, isBlank c = false) :
    trimStart (text ++ rest) = trimStart text ++ rest := by
  rw [trimStart, List.dropWhile_append, trimStart]
  split
  · next hnil =>
    rw [List.isEmpty_iff.1 hnil, List.nil_append]
    exact trimStart_eq_self h
  · rfl

theorem append_trimEnd {text rest : Text} (h : ∀ c ∈ text.getLast?, isBlank c = false) :
    trimEnd (text ++ rest) = text ++ trimEnd rest := by
  have hreverse : trimStart (rest.reverse ++ text.reverse) = trimStart rest.reverse ++ text.reverse :=
    trimStart_append (by rwa [List.head?_reverse])
  have hend : trimEnd (text ++ rest) = (trimStart (rest.reverse ++ text.reverse)).reverse := by
    rw [← List.reverse_append]
    rfl
  rw [hend, hreverse, List.reverse_append, List.reverse_reverse]
  rfl

-- Nothing is lost before a text that is not blank.
theorem trimEnd_append_of_not_blank {right : Text} (left : Text) (h : isBlankText right = false) :
    trimEnd (left ++ right) = left ++ trimEnd right := by
  have hne : (right.reverse.dropWhile isBlank).isEmpty = false := by
    rw [List.isEmpty_eq_false_iff, Ne, ← List.reverse_eq_nil_iff, ← trimEnd, trimEnd_eq_nil_iff, h]
    exact Bool.false_ne_true
  rw [trimEnd, List.reverse_append, List.dropWhile_append, hne, if_neg Bool.false_ne_true,
    List.reverse_append, List.reverse_reverse, trimEnd]

theorem trim_trimStart (text : Text) : trim (trimStart text) = trim text := by
  rw [trim, trimStart_eq_self (head?_trimStart_not_blank text), trim]

theorem trim_trimEnd (text : Text) : trim (trimEnd text) = trim text := by
  obtain ⟨blanks, hblanks, htext⟩ := trimEnd_append_blank text
  generalize trimEnd text = kept at htext
  subst htext
  rw [trim, trim, trimStart, trimStart, List.dropWhile_append]
  split
  · next hnil => rw [List.isEmpty_iff.1 hnil, List.dropWhile_eq_nil_iff.2 hblanks]
  · rw [trimEnd_append _ hblanks]

-- Only white space is lost.
theorem mem_trim_of_not_blank {text : Text} {c : Char} (hmem : c ∈ text)
    (h : isBlank c = false) : c ∈ trim text := by
  have hstart : c ∈ trimStart text := by
    rw [← leadingBlank_append_trimStart text] at hmem
    rcases List.mem_append.1 hmem with hblank | hmem
    · have hc := List.all_eq_true.1 List.all_takeWhile c hblank
      rw [h] at hc
      contradiction
    · exact hmem
  obtain ⟨blanks, hblanks, htext⟩ := trimEnd_append_blank (trimStart text)
  rw [htext] at hstart
  rcases List.mem_append.1 hstart with hend | hblank
  · exact hend
  · rw [hblanks c hblank] at h
    contradiction

theorem IsTrimmed.trim_eq {text : Text} (h : IsTrimmed text) : trim text = text := by
  have hlast : text.getLast?.any isBlank = false := by
    cases hend : text.getLast? with
    | none => rfl
    | some c => exact h.last c hend
  rw [trim, trimStart_eq_self h.first, trimEnd_eq_self hlast]

end Trim

section Words

theorem not_mark_of_mem_splitWhere {isMark : Char → Bool} {text piece : Text}
    (h : piece ∈ splitWhere isMark text) : ∀ c ∈ piece, isMark c = false := by
  induction text generalizing piece with
  | nil => simp_all [splitWhere]
  | cons c rest ih =>
    rw [splitWhere] at h
    by_cases hc : isMark c
    · rw [if_pos hc, List.mem_cons] at h
      rcases h with rfl | h
      · simp
      · exact ih h
    · rw [if_neg hc] at h
      cases hrest : splitWhere isMark rest with
      | nil => simp_all
      | cons first others =>
        simp only [hrest, List.mem_cons] at h ih
        rcases h with rfl | h
        · simpa [hc] using ih (.inl rfl)
        · exact ih (.inr h)

-- What is no mark is in one of the pieces.
theorem exists_mem_splitWhere {isMark : Char → Bool} {text : Text} {c : Char} (hc : c ∈ text)
    (h : isMark c = false) : ∃ piece ∈ splitWhere isMark text, c ∈ piece := by
  induction text with
  | nil => simp at hc
  | cons d rest ih =>
    rw [splitWhere]
    by_cases hd : isMark d
    · have hrest : c ∈ rest := by
        rcases List.mem_cons.1 hc with rfl | hrest
        · rw [h] at hd
          contradiction
        · exact hrest
      obtain ⟨piece, hpiece, hmem⟩ := ih hrest
      rw [if_pos hd]
      exact ⟨piece, List.mem_cons_of_mem _ hpiece, hmem⟩
    · rw [if_neg hd]
      rcases List.mem_cons.1 hc with rfl | hrest
      · cases splitWhere isMark rest <;> simp
      · obtain ⟨piece, hpiece, hmem⟩ := ih hrest
        cases hsplit : splitWhere isMark rest with
        | nil => simp [hsplit] at hpiece
        | cons first others =>
          rw [hsplit, List.mem_cons] at hpiece
          rcases hpiece with rfl | hpiece
          · exact ⟨d :: piece, List.mem_cons_self, List.mem_cons_of_mem _ hmem⟩
          · exact ⟨piece, List.mem_cons_of_mem _ hpiece, hmem⟩

theorem splitWhere_ne_nil (isMark : Char → Bool) (text : Text) : splitWhere isMark text ≠ [] := by
  cases text with
  | nil => exact List.cons_ne_nil _ _
  | cons c rest =>
    rw [splitWhere]
    split
    · exact List.cons_ne_nil _ _
    · cases splitWhere isMark rest <;> exact List.cons_ne_nil _ _

theorem splitWhere_append_mark {isMark : Char → Bool} {mark : Char} (left right : Text)
    (h : isMark mark) :
    splitWhere isMark (left ++ mark :: right) =
      splitWhere isMark left ++ splitWhere isMark right := by
  induction left with
  | nil => simp [splitWhere, h]
  | cons c left ih =>
    rw [List.cons_append, splitWhere, splitWhere, ih]
    by_cases hc : isMark c
    · simp [hc]
    · obtain ⟨first, others, hleft⟩ :=
        List.exists_cons_of_ne_nil (splitWhere_ne_nil isMark left)
      simp [hc, hleft]

theorem mem_words {text word : Text} (h : word ∈ words text) : word ≠ [] ∧ IsTrimmed word := by
  obtain ⟨hpiece, hne⟩ := List.mem_filter.1 h
  exact ⟨by simpa using hne, isTrimmed_of_not_blank (not_mark_of_mem_splitWhere hpiece)⟩

theorem words_cons_of_blank {c : Char} (text : Text) (h : isBlank c) :
    words (c :: text) = words text := by
  simp [words, splitWhere, h]

theorem words_append_blank {c : Char} (left right : Text) (h : isBlank c) :
    words (left ++ c :: right) = words left ++ words right := by
  rw [words, splitWhere_append_mark left right h, List.filter_append, words, words]

theorem words_append_blanks {blanks : Text} (text : Text) (h : ∀ c ∈ blanks, isBlank c) :
    words (text ++ blanks) = words text := by
  induction blanks generalizing text with
  | nil => rw [List.append_nil]
  | cons c blanks ih =>
    rw [List.forall_mem_cons] at h
    have hblanks : words blanks = [] := ih [] h.2
    rw [words_append_blank text blanks h.1, hblanks, List.append_nil]

theorem words_trimStart (text : Text) : words (trimStart text) = words text := by
  induction text with
  | nil => rfl
  | cons c rest ih =>
    by_cases hc : isBlank c
    · rw [words_cons_of_blank rest hc, ← ih, trimStart, trimStart, List.dropWhile_cons_of_pos hc]
    · rw [trimStart, List.dropWhile_cons_of_neg hc]

theorem words_trim (text : Text) : words (trim text) = words text := by
  obtain ⟨blanks, hblanks, htext⟩ := trimEnd_append_blank (trimStart text)
  rw [trim, ← words_append_blanks _ hblanks, ← htext, words_trimStart]

-- The first word begins with the first character that is not blank.
theorem head?_words (text : Text) : (words text).head?.bind (·.head?) = (trimStart text).head? := by
  induction text with
  | nil => rfl
  | cons c rest ih =>
    by_cases hc : isBlank c
    · rw [words_cons_of_blank rest hc, ih, trimStart, trimStart, List.dropWhile_cons_of_pos hc]
    · rw [trimStart, List.dropWhile_cons_of_neg hc]
      cases hrest : splitWhere isBlank rest <;> simp [words, splitWhere, hc, hrest]

theorem words_eq_nil_iff {text : Text} : words text = [] ↔ isBlankText text := by
  rw [← trimStart_eq_nil_iff, ← List.head?_eq_none_iff (l := trimStart text), ← head?_words]
  cases hwords : words text with
  | nil => simp
  | cons word rest =>
    have hword := (mem_words (hwords ▸ List.mem_cons_self)).1
    simpa using hword

end Words

end Referencing.Text
