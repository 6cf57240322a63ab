namespace Referencing

-- A text is the list of its characters, so that every scan of it is a
-- recursion on data.
abbrev Text := List Char

namespace Text

-- Length in bytes of UTF-8. Positions that a caller sees are counted this way.
def size : Text → Nat
  | [] => 0
  | c :: rest => c.utf8Size + size rest

-- What stands before and after the first occurrence of a character.
def cut? (mark : Char) : Text → Option (Text × Text)
  | [] => none
  | c :: rest =>
    if c = mark then some ([], rest)
    else (cut? mark rest).map fun (before, after) => (c :: before, after)

-- The same for the first occurrence of a whole text.
def cutAt? (mark : Text) : Text → Option (Text × Text)
  | [] => if mark = [] then some ([], []) else none
  | c :: rest =>
    if mark.isPrefixOf (c :: rest) then some ([], (c :: rest).drop mark.length)
    else (cutAt? mark rest).map fun (before, after) => (c :: before, after)

-- The pieces between the characters that are marks; one more than there are
-- marks.
def splitWhere (isMark : Char → Bool) : Text → List Text
  | [] => [[]]
  | c :: rest =>
    if isMark c then [] :: splitWhere isMark rest
    else
      match splitWhere isMark rest with
      | [] => [[c]]
      | piece :: pieces => (c :: piece) :: pieces

def split (mark : Char) (text : Text) : List Text :=
  splitWhere (· == mark) text

def without (mark : Char) (text : Text) : Text :=
  text.filter (· ≠ mark)

def join (separator : Text) : List Text → Text
  | [] => []
  | [piece] => piece
  | piece :: pieces => piece ++ separator ++ join separator pieces

private def withoutReturn (line : Text) : Text :=
  if line.getLast? = some '\r' then line.dropLast else line

-- A line ends with a line feed or with a carriage return and a line feed; the
-- text after the last line feed is a line only if it is not empty.
def lines (text : Text) : List Text :=
  let pieces := split '\n' text
  pieces.dropLast.map withoutReturn ++ pieces.getLast?.toList.filter (· ≠ [])

@[simp] theorem size_nil : size [] = 0 := rfl

@[simp] theorem size_cons (c : Char) (text : Text) :
    size (c :: text) = c.utf8Size + size text := rfl

@[simp] theorem size_append (left right : Text) :
    size (left ++ right) = size left + size right := by
  induction left with
  | nil => simp
  | cons c rest ih => simp only [List.cons_append, size_cons, ih, Nat.add_assoc]

theorem size_pos_of_ne_nil {text : Text} (h : text ≠ []) : 0 < size text := by
  cases text with
  | nil => exact absurd rfl h
  | cons c rest => have := c.utf8Size_pos; simp only [size_cons]; omega

theorem size_eq_zero_iff {text : Text} : size text = 0 ↔ text = [] := by
  refine ⟨fun h => Decidable.byContradiction fun hne => ?_, fun h => h ▸ rfl⟩
  exact Nat.ne_of_gt (size_pos_of_ne_nil hne) h

-- Two beginnings of one text with the same size are the same.
theorem eq_of_size_eq {left right text : Text} (hleft : left <+: text) (hright : right <+: text)
    (h : size left = size right) : left = right := by
  rcases List.prefix_or_prefix_of_prefix hleft hright with ⟨rest, rfl⟩ | ⟨rest, rfl⟩
  all_goals
    have hrest : rest = [] := size_eq_zero_iff.1 (by rw [size_append] at h; omega)
    rw [hrest, List.append_nil]

-- A cut loses nothing but the mark, and makes it at the first occurrence.
theorem eq_of_cut? {mark : Char} {text before after : Text}
    (h : cut? mark text = some (before, after)) :
    text = before ++ mark :: after ∧ mark ∉ before := by
  induction text generalizing before with
  | nil => simp [cut?] at h
  | cons c rest ih =>
    simp only [cut?] at h
    split at h
    · next hc =>
      simp only [Option.some.injEq, Prod.mk.injEq] at h
      obtain ⟨rfl, rfl⟩ := h
      simp [hc]
    · next hc =>
      simp only [Option.map_eq_some_iff, Prod.mk.injEq] at h
      obtain ⟨⟨b, a⟩, hcut, rfl, rfl⟩ := h
      obtain ⟨rfl, hnot⟩ := ih hcut
      simp [hnot, Ne.symm hc]

theorem cut?_eq_none_iff {mark : Char} {text : Text} : cut? mark text = none ↔ mark ∉ text := by
  induction text with
  | nil => simp [cut?]
  | cons c rest ih =>
    simp only [cut?]
    split
    · next hc => simp [hc]
    · next hc => simp [ih, Ne.symm hc]

theorem cut?_append {mark : Char} {before : Text} (after : Text) (h : mark ∉ before) :
    cut? mark (before ++ mark :: after) = some (before, after) := by
  induction before with
  | nil => simp [cut?]
  | cons c rest ih =>
    simp only [List.mem_cons, not_or] at h
    simp [cut?, Ne.symm h.1, ih h.2]

theorem length_lt_of_cut? {mark : Char} {text before after : Text}
    (h : cut? mark text = some (before, after)) : after.length < text.length := by
  rw [(eq_of_cut? h).1]
  simp only [List.length_append, List.length_cons]
  omega

theorem cutAt?_eq_none_iff {mark text : Text} : cutAt? mark text = none ↔ ¬mark <:+: text := by
  induction text with
  | nil => simp [cutAt?]
  | cons c rest ih =>
    rw [cutAt?, List.infix_cons_iff, not_or, ← ih, ← List.isPrefixOf_iff_prefix]
    split
    · next hmark => simp [hmark]
    · next hmark => simp [hmark]

-- If the mark cannot begin in what stands before it, that is where the cut is made.
theorem cutAt?_append {first : Char} {rest before : Text} (after : Text) (h : first ∉ before) :
    cutAt? (first :: rest) (before ++ (first :: rest) ++ after) = some (before, after) := by
  induction before with
  | nil => simp [cutAt?]
  | cons c before ih =>
    simp only [List.mem_cons, not_or] at h
    simpa [cutAt?, h.1] using ih h.2

@[simp] theorem not_mem_without (mark : Char) (text : Text) : mark ∉ without mark text := by
  simp [without]

@[simp] theorem without_nil (mark : Char) : without mark [] = [] := rfl

@[simp] theorem without_append (mark : Char) (left right : Text) :
    without mark (left ++ right) = without mark left ++ without mark right := by
  simp [without]

theorem without_eq_self {mark : Char} {text : Text} (h : mark ∉ text) :
    without mark text = text := by
  simp only [without, List.filter_eq_self, ne_eq, decide_not, Bool.not_eq_eq_eq_not, Bool.not_true,
    decide_eq_false_iff_not]
  intro c hc hm
  exact h (hm ▸ hc)

theorem splitWhere_append {isMark : Char → Bool} {piece rest first : Text} {others : List Text}
    (h : ∀ c ∈ piece, isMark c = false) (hrest : splitWhere isMark rest = first :: others) :
    splitWhere isMark (piece ++ rest) = (piece ++ first) :: others := by
  induction piece with
  | nil => exact hrest
  | cons c piece ih =>
    rw [List.forall_mem_cons] at h
    simp [splitWhere, h.1, ih h.2]

-- The pieces have no characters of their own.
theorem mem_of_mem_splitWhere {isMark : Char → Bool} {text piece : Text} {c : Char}
    (h : piece ∈ splitWhere isMark text) (hc : c ∈ piece) : c ∈ text := by
  induction text generalizing piece with
  | nil => simp_all [splitWhere]
  | cons d rest ih =>
    rw [splitWhere] at h
    by_cases hd : isMark d
    · rw [if_pos hd, List.mem_cons] at h
      rcases h with rfl | h
      · simp at hc
      · exact List.mem_cons_of_mem d (ih h hc)
    · rw [if_neg hd] at h
      cases hrest : splitWhere isMark rest with
      | nil => simp_all
      | cons first others =>
        simp only [hrest, List.mem_cons] at h ih
        rcases h with rfl | h
        · exact (List.mem_cons.1 hc).elim (fun same => same ▸ List.mem_cons_self)
            fun hfirst => List.mem_cons_of_mem d (ih (.inl rfl) hfirst)
        · exact List.mem_cons_of_mem d (ih (.inr h) hc)

theorem not_mem_join {separator : Text} {pieces : List Text} {c : Char} (hsep : c ∉ separator)
    (h : ∀ piece ∈ pieces, c ∉ piece) : c ∉ join separator pieces := by
  induction pieces with
  | nil => simp [join]
  | cons piece rest ih =>
    rw [List.forall_mem_cons] at h
    cases rest with
    | nil => exact h.1
    | cons next rest => simp [join, h.1, hsep, ih h.2]

-- Splitting undoes joining if the mark stands in none of the pieces.
theorem split_join {mark : Char} {pieces : List Text} (hne : pieces ≠ [])
    (h : ∀ piece ∈ pieces, mark ∉ piece) : split mark (join [mark] pieces) = pieces := by
  induction pieces with
  | nil => contradiction
  | cons piece rest ih =>
    rw [List.forall_mem_cons] at h
    have hpiece : ∀ c ∈ piece, (c == mark) = false := by
      intro c hc
      simpa using fun same : c = mark => h.1 (same ▸ hc)
    cases rest with
    | nil =>
      have hnil : splitWhere (· == mark) [] = [[]] := rfl
      have hlast := splitWhere_append hpiece hnil
      simpa [split, join] using hlast
    | cons next rest =>
      have hrest : splitWhere (· == mark) (mark :: join [mark] (next :: rest)) =
          [] :: next :: rest := by
        simp only [splitWhere, beq_self_eq_true, if_true]
        exact congrArg ([] :: ·) (ih (by simp) h.2)
      have hfirst := splitWhere_append hpiece hrest
      rw [List.append_nil] at hfirst
      simpa [split, join] using hfirst

end Text

end Referencing
