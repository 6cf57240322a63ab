import Referencing.Markup.Export
import Referencing.Text.Bytes

namespace Referencing.Markup

open Text

-- The name that stands between two brackets, behind a slash if it closes.
def markerNamed? (inside : Text) : Option Marker :=
  match inside with
  | '/' :: name => (Tag.all.find? (·.name = name)).map (⟨·, true⟩)
  | name => (Tag.all.find? (·.name = name)).map (⟨·, false⟩)

-- The marker that a text begins with, and how many bytes it takes. Its end is the
-- first bracket that closes.
def markerAt? : Text → Option (Marker × Nat)
  | '[' :: rest =>
    (cut? ']' rest).bind fun cut =>
      (markerNamed? cut.1).map fun marker => (marker, size cut.1 + 2)
  | _ => none

-- How far the conversion of a text has come. The run from the one cursor to the other
-- is not written yet. `passed` holds what each step has moved the second cursor over.
structure Scan where
  runStart : Nat := 0
  position : Nat := 0
  written : Text := []
  passed : List Text := []

def Medium.writeRun (medium : Medium) (run : Text) : Text :=
  run.flatMap medium.escape

namespace Scan

def move? (length : Nat) (text : Text) (scan : Scan) : Option Scan :=
  (slice? scan.position (scan.position + length) text).map fun moved =>
    { scan with position := scan.position + length, passed := scan.passed ++ [moved] }

-- Writes the run, and something for what the cursor moves over.
def writeMark? (medium : Medium) (writing : Text) (length : Nat) (text : Text) (scan : Scan) :
    Option Scan :=
  (slice? scan.runStart scan.position text).bind fun run =>
    (scan.move? length text).map fun next =>
      { next with
        runStart := next.position
        written := scan.written ++ medium.writeRun run ++ writing }

def step? (medium : Medium) (text : Text) (scan : Scan) : Option Scan :=
  (cutAtByte? scan.position text).bind fun (_, rest) =>
    if dashMark.isPrefixOf rest then scan.writeMark? medium medium.ndash (size dashMark) text
    else
      match markerAt? rest with
      | some (marker, length) => scan.writeMark? medium (medium.write (.tagged marker)) length text
      | none => scan.move? (rest.head?.elim 1 (·.utf8Size)) text

theorem lt_position_of_move? {length : Nat} {text : Text} {scan next : Scan} (hpos : 0 < length)
    (h : scan.move? length text = some next) : scan.position < next.position := by
  obtain ⟨moved, -, rfl⟩ := Option.map_eq_some_iff.1 h
  exact Nat.lt_add_of_pos_right hpos

theorem lt_position_of_writeMark? {medium : Medium} {writing text : Text} {length : Nat}
    {scan next : Scan} (hpos : 0 < length)
    (h : scan.writeMark? medium writing length text = some next) :
    scan.position < next.position := by
  obtain ⟨run, -, hmove⟩ := Option.bind_eq_some_iff.1 h
  obtain ⟨moved, hmoved, rfl⟩ := Option.map_eq_some_iff.1 hmove
  have hlt := lt_position_of_move? hpos hmoved
  exact hlt

end Scan

theorem length_pos_of_markerAt? {text : Text} {marker : Marker} {length : Nat}
    (h : markerAt? text = some (marker, length)) : 0 < length := by
  unfold markerAt? at h
  split at h
  · obtain ⟨cut, -, hmarker⟩ := Option.bind_eq_some_iff.1 h
    obtain ⟨named, -, hlength⟩ := Option.map_eq_some_iff.1 hmarker
    have := congrArg Prod.snd hlength
    simp only at this
    omega
  · contradiction

-- Every step moves on.
theorem Scan.lt_position_of_step? {medium : Medium} {text : Text} {scan next : Scan}
    (h : scan.step? medium text = some next) : scan.position < next.position := by
  obtain ⟨⟨before, rest⟩, -, hstep⟩ := Option.bind_eq_some_iff.1 h
  simp only at hstep
  split at hstep
  · exact lt_position_of_writeMark? (by decide) hstep
  · split at hstep
    · next marker length hmarker =>
      exact lt_position_of_writeMark? (length_pos_of_markerAt? hmarker) hstep
    · refine lt_position_of_move? ?_ hstep
      cases rest with
      | nil => exact Nat.one_pos
      | cons c rest => exact c.utf8Size_pos

namespace Scan

def run? (medium : Medium) (text : Text) (scan : Scan) : Option Scan :=
  if scan.position < size text then
    match _ : scan.step? medium text with
    | none => none
    | some next => next.run? medium text
  else some scan
termination_by size text - scan.position
decreasing_by
  have hlt := lt_position_of_step? ‹_›
  omega

-- At the end of the text the last run is written.
def finish? (medium : Medium) (text : Text) (scan : Scan) : Option Scan :=
  (cutAtByte? scan.runStart text).map fun (_, run) =>
    { scan with runStart := scan.position, written := scan.written ++ medium.writeRun run }

end Scan

-- A text as a medium writes it, run by run. There would be no result if a cursor came
-- to stand inside a character.
def Medium.scan? (medium : Medium) (text : Text) : Option Scan :=
  (Scan.run? medium text {}).bind (·.finish? medium text)

end Referencing.Markup
