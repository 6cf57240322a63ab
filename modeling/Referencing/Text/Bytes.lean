import Referencing.Text.Basic

namespace Referencing.Text

-- A text cut at a position counted in bytes. There is none inside a character, nor
-- behind the end.
def cutAtByte? : Nat → Text → Option (Text × Text)
  | 0, text => some ([], text)
  | _ + 1, [] => none
  | position + 1, c :: rest =>
    if c.utf8Size ≤ position + 1 then
      (cutAtByte? (position + 1 - c.utf8Size) rest).map fun (before, after) => (c :: before, after)
    else none

-- What stands between two positions.
def slice? (start stop : Nat) (text : Text) : Option Text :=
  if start ≤ stop then
    (cutAtByte? start text).bind fun cut => (cutAtByte? (stop - start) cut.2).map (·.1)
  else none

-- The same where both positions are known to cut the text between characters.
def slice (start stop : Nat) (text : Text) : Text :=
  (slice? start stop text).getD []

def behind? (position : Nat) (text : Text) : Option Text :=
  (cutAtByte? position text).map (·.2)

-- Where a character first occurs.
def offset? (mark : Char) (text : Text) : Option Nat :=
  (cut? mark text).map fun cut => size cut.1

theorem cutAtByte?_size (before after : Text) :
    cutAtByte? (size before) (before ++ after) = some (before, after) := by
  induction before with
  | nil => simp [cutAtByte?]
  | cons c rest ih =>
    have hpos := c.utf8Size_pos
    obtain ⟨position, hposition⟩ : ∃ position, size (c :: rest) = position + 1 :=
      ⟨size (c :: rest) - 1, by rw [size_cons]; omega⟩
    rw [size_cons] at hposition
    have hrest : position + 1 - c.utf8Size = size rest := by omega
    rw [size_cons, hposition, List.cons_append, cutAtByte?, if_pos (by omega), hrest, ih]
    rfl

theorem eq_of_cutAtByte? {position : Nat} {text before after : Text}
    (h : cutAtByte? position text = some (before, after)) :
    text = before ++ after ∧ size before = position := by
  induction text generalizing position before with
  | nil =>
    cases position with
    | zero => simp_all [cutAtByte?]
    | succ position => simp [cutAtByte?] at h
  | cons c rest ih =>
    cases position with
    | zero => simp_all [cutAtByte?]
    | succ position =>
      rw [cutAtByte?] at h
      split at h
      · next hfits =>
        obtain ⟨⟨kept, others⟩, hcut, hsame⟩ := Option.map_eq_some_iff.1 h
        simp only [Prod.mk.injEq] at hsame
        obtain ⟨rfl, rfl⟩ := hsame
        obtain ⟨rfl, hsize⟩ := ih hcut
        refine ⟨rfl, ?_⟩
        rw [size_cons]
        omega
      · contradiction

theorem slice?_size (before between after : Text) :
    slice? (size before) (size (before ++ between)) (before ++ between ++ after) =
      some between := by
  rw [slice?, size_append, if_pos (Nat.le_add_right _ _), List.append_assoc, cutAtByte?_size,
    Option.bind_some, Nat.add_sub_cancel_left, cutAtByte?_size]
  rfl

theorem slice_size (before between after : Text) :
    slice (size before) (size (before ++ between)) (before ++ between ++ after) = between := by
  rw [slice, slice?_size, Option.getD_some]

theorem behind?_size (before after : Text) :
    behind? (size before) (before ++ after) = some after := by
  rw [behind?, cutAtByte?_size]
  rfl

theorem eq_of_behind? {position : Nat} {text after : Text}
    (h : behind? position text = some after) :
    ∃ before, text = before ++ after ∧ size before = position := by
  obtain ⟨⟨before, rest⟩, hcut, rfl⟩ := Option.map_eq_some_iff.1 h
  obtain ⟨htext, hsize⟩ := eq_of_cutAtByte? hcut
  exact ⟨before, htext, hsize⟩

end Referencing.Text
