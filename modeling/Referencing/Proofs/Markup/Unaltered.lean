import Referencing.Proofs.Markup.Scanning
import Referencing.Proofs.Text.Joined

namespace Referencing.Markup

open Text

-- A medium leaves the characters alone that it does not escape.
def Medium.Spares (medium : Medium) : Piece → Prop
  | .char c => medium.escape c = [c]
  | _ => False

instance (medium : Medium) : DecidablePred medium.Spares
  | .dash => inferInstanceAs (Decidable False)
  | .tagged _ => inferInstanceAs (Decidable False)
  | .char c => inferInstanceAs (Decidable (medium.escape c = [c]))

-- Another format than plain text shows that it is one where there is a marker, an en dash
-- placeholder or a character to escape.
def Format.Spares (format : Format) (text : Text) : Prop :=
  format = .plain ∨ ∀ piece ∈ pieces text, format.medium.Spares piece

instance (format : Format) : DecidablePred format.Spares :=
  fun _ => inferInstanceAs (Decidable (_ ∨ _))

namespace Format

variable {format : Format}

theorem export_eq_convert (format : Format) (text : Text) :
    format.export text = format.medium.convert text := by
  cases format with
  | raw => exact (convert_raw text).symm
  | _ => rfl

theorem escape_ne_nil (format : Format) (c : Char) : format.medium.escape c ≠ [] := by
  cases format with
  | plain | raw => exact List.cons_ne_nil c []
  | html =>
    show Medium.htmlEscape c ≠ []
    unfold Medium.htmlEscape
    split
    all_goals first | decide | exact List.cons_ne_nil c []
  | rtf =>
    show Medium.rtfEscape c ≠ []
    have hunit : ∀ unit, Medium.rtfUnit unit ≠ [] := by simp [Medium.rtfUnit]
    unfold Medium.rtfEscape Medium.units
    split_ifs <;> simp [hunit]

theorem length_write_plain_le (format : Format) (piece : Piece) :
    (Medium.plain.write piece).length ≤ (format.medium.write piece).length := by
  cases piece with
  | dash => cases format <;> decide
  | tagged marker =>
    obtain ⟨tag, closing⟩ := marker
    cases closing <;> exact Nat.zero_le _
  | char c => exact List.length_pos_iff.2 (format.escape_ne_nil c)

theorem write_plain_eq_iff (h : format ≠ .plain) (piece : Piece) :
    Medium.plain.write piece = format.medium.write piece ↔ format.medium.Spares piece := by
  cases piece with
  | dash =>
    refine iff_of_false ?_ not_false
    revert h
    cases format <;> decide
  | tagged marker =>
    refine iff_of_false ?_ not_false
    obtain ⟨tag, closing⟩ := marker
    revert h
    cases format <;> cases tag <;> cases closing <;> decide
  | char c => exact eq_comm

theorem length_export_plain_le (format : Format) (text : Text) :
    (Format.plain.export text).length ≤ (format.export text).length := by
  rw [export_eq_convert, export_eq_convert]
  exact length_flatMap_le fun piece _ => format.length_write_plain_le piece

-- No format writes less than plain text, so none can make up for a piece it writes otherwise.
theorem export_plain_eq_iff (format : Format) (text : Text) :
    Format.plain.export text = format.export text ↔ format.Spares text := by
  by_cases h : format = .plain
  · exact iff_of_true (h ▸ rfl) (.inl h)
  · rw [export_eq_convert, export_eq_convert, Format.Spares, or_iff_right h]
    refine (flatMap_eq_iff fun piece _ => format.length_write_plain_le piece).trans ?_
    exact forall₂_congr fun piece _ => write_plain_eq_iff h piece

end Format

end Referencing.Markup
