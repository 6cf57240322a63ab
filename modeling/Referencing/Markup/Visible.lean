import Referencing.Markup.Scan

namespace Referencing.Markup

open Text

-- A text cut after the markers that it begins with.
def cutLeading (text : Text) : Text × Text :=
  match _ : Marker.parse? text with
  | none => ([], text)
  | some marker =>
    let (markers, rest) := cutLeading (text.drop marker.spelling.length)
    (marker.spelling ++ markers, rest)
termination_by text.length
decreasing_by
  have hstart := List.isPrefixOf_iff_prefix.1 (Marker.parse?_isPrefix ‹_›)
  have hlength := hstart.length_le
  have hpos := List.length_pos_iff.2 marker.spelling_ne_nil
  simp only [List.length_drop]
  omega

-- A text without the markers that it ends with.
def dropTrailing (text : Text) : Text :=
  match _ : Marker.parseEnd? text with
  | none => text
  | some marker => dropTrailing (text.take (text.length - marker.spelling.length))
termination_by text.length
decreasing_by
  have hend := List.isSuffixOf_iff_suffix.1 (Marker.parseEnd?_isSuffix ‹_›)
  have hlength := hend.length_le
  have hpos := List.length_pos_iff.2 marker.spelling_ne_nil
  simp only [List.length_take]
  omega

-- The first and last character that a reader sees, markers left out.
def firstVisible (text : Text) : Option Char :=
  (cutLeading text).2.head?

def lastVisible (text : Text) : Option Char :=
  (dropTrailing text).getLast?

-- The first character behind the markers that a text has from a byte on. There would be
-- no result if the cursor came to stand inside a character.
def firstFrom? (text : Text) (position : Nat) : Option (Option (Nat × Char)) :=
  match _ : cutAtByte? position text with
  | none => none
  | some (_, rest) =>
    match _ : markerAt? rest with
    | some (_, length) => firstFrom? text (position + length)
    | none => some (rest.head?.map fun c => (position, c))
termination_by size text + 1 - position
decreasing_by
  have hpos := length_pos_of_markerAt? ‹_›
  obtain ⟨rfl, rfl⟩ := eq_of_cutAtByte? ‹_›
  rw [size_append]
  omega

-- What stands before the last occurrence of a character.
def beforeLast? (mark : Char) (text : Text) : Option Text :=
  (cut? mark text.reverse).map fun cut => cut.2.reverse

-- The last character before the markers that a text has up to a byte. A marker there begins
-- at the last bracket that opens, and nothing is left of it.
def lastBefore? (text : Text) (stop : Nat) : Option (Option Char) :=
  match cutAtByte? stop text with
  | none => none
  | some (shown, _) =>
    if shown.getLast? = some ']' then
      match beforeLast? '[' shown with
      | none => some shown.getLast?
      | some before =>
        match slice? (size before) stop text with
        | none => none
        | some ending =>
          match _ : markerAt? ending with
          | some (_, length) =>
            if _ : size before + length = stop then lastBefore? text (size before)
            else some shown.getLast?
          | none => some shown.getLast?
    else some shown.getLast?
termination_by stop
decreasing_by
  have hpos := length_pos_of_markerAt? ‹_›
  omega

theorem cutLeading_append (text : Text) : (cutLeading text).1 ++ (cutLeading text).2 = text := by
  fun_induction cutLeading text with
  | case1 => rfl
  | case2 text marker h markers rest hrest ih =>
    obtain ⟨after, rfl⟩ := List.isPrefixOf_iff_prefix.1 (Marker.parse?_isPrefix h)
    rw [hrest] at ih
    simpa using ih

end Referencing.Markup
