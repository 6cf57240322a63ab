import Referencing.Markup.Medium

namespace Referencing.Markup

open Text

-- Neutral text as a medium sees it: the en dash placeholder, inline markers,
-- and characters.
inductive Piece
  | dash
  | tagged (marker : Marker)
  | char (c : Char)
  deriving DecidableEq, Repr

def Piece.spelling : Piece → Text
  | .dash => dashMark
  | .tagged marker => marker.spelling
  | .char c => [c]

-- The piece that a text begins with.
def Piece.first (c : Char) (rest : Text) : Piece :=
  if dashMark.isPrefixOf (c :: rest) then .dash
  else
    match Marker.parse? (c :: rest) with
    | some marker => .tagged marker
    | none => .char c

theorem Piece.spelling_ne_nil (piece : Piece) : piece.spelling ≠ [] := by
  cases piece with
  | dash => simp [spelling, dashMark]
  | tagged marker => exact marker.spelling_ne_nil
  | char c => simp [spelling]

theorem Piece.first_isPrefix (c : Char) (rest : Text) :
    (Piece.first c rest).spelling <+: c :: rest := by
  unfold Piece.first
  split
  · next h => exact List.isPrefixOf_iff_prefix.1 h
  · split
    · next h => exact List.isPrefixOf_iff_prefix.1 (Marker.parse?_isPrefix h)
    · exact ⟨rest, rfl⟩

def pieces : Text → List Piece
  | [] => []
  | c :: rest =>
    let piece := Piece.first c rest
    piece :: pieces ((c :: rest).drop piece.spelling.length)
termination_by text => text.length
decreasing_by
  have hpos := List.length_pos_iff.2 (Piece.first c rest).spelling_ne_nil
  simp only [List.length_drop, List.length_cons]
  omega

def Medium.write (medium : Medium) : Piece → Text
  | .dash => medium.ndash
  | .tagged ⟨tag, false⟩ => medium.opening tag
  | .tagged ⟨tag, true⟩ => medium.closing tag
  | .char c => medium.escape c

def Medium.convert (medium : Medium) (text : Text) : Text :=
  (pieces text).flatMap medium.write

-- The formats a caller can ask for.
inductive Format
  | plain
  | html
  | rtf
  | raw
  deriving DecidableEq, Repr

def Format.medium : Format → Medium
  | .plain => .plain
  | .html => .html
  | .rtf => .rtf
  | .raw => .raw

-- Raw text is handed over as it is.
def Format.export (format : Format) (text : Text) : Text :=
  match format with
  | .raw => text
  | _ => format.medium.convert text

end Referencing.Markup
