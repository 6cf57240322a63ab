import Mathlib.Data.List.Infix
import Referencing.Markup.Scan
import Referencing.Proofs.Markup.Closings
import Referencing.Proofs.Markup.Reading

namespace Referencing.Markup

open Text

section Markers

-- What stands between the brackets of a marker.
def Marker.inside (marker : Marker) : Text :=
  (if marker.closing then ['/'] else []) ++ marker.tag.name

theorem Marker.spelling_eq (marker : Marker) :
    marker.spelling = '[' :: (marker.inside ++ [']']) := by
  simp [spelling, inside]

theorem Marker.bracket_not_mem_inside (marker : Marker) : ']' ∉ marker.inside := by
  obtain ⟨tag, closing⟩ := marker
  cases tag <;> cases closing <;> decide

theorem markerNamed?_inside (marker : Marker) : markerNamed? marker.inside = some marker := by
  obtain ⟨tag, closing⟩ := marker
  cases tag <;> cases closing <;> rfl

theorem inside_of_markerNamed? {inside : Text} {marker : Marker}
    (h : markerNamed? inside = some marker) : marker.inside = inside := by
  unfold markerNamed? at h
  split at h
  · next name =>
    obtain ⟨tag, htag, rfl⟩ := Option.map_eq_some_iff.1 h
    have hname := List.find?_some htag
    simpa [Marker.inside] using hname
  · obtain ⟨tag, htag, rfl⟩ := Option.map_eq_some_iff.1 h
    have hname := List.find?_some htag
    simpa [Marker.inside] using hname

theorem markerAt?_spelling_append (marker : Marker) (rest : Text) :
    markerAt? (marker.spelling ++ rest) = some (marker, size marker.spelling) := by
  have hcut : cut? ']' (marker.inside ++ ']' :: rest) = some (marker.inside, rest) :=
    cut?_append rest marker.bracket_not_mem_inside
  have hsize : size marker.spelling = size marker.inside + 2 := by
    have hbracket : ('[' : Char).utf8Size = 1 ∧ (']' : Char).utf8Size = 1 := by decide
    rw [marker.spelling_eq, size_cons, size_append, size_cons, size_nil]
    omega
  have htext : marker.spelling ++ rest = '[' :: (marker.inside ++ ']' :: rest) := by
    rw [marker.spelling_eq]
    simp
  rw [htext, markerAt?, hcut, Option.bind_some, markerNamed?_inside, hsize]
  rfl

-- The first closing bracket decides the same as the list of all spellings.
theorem markerAt?_eq (text : Text) :
    markerAt? text = (Marker.parse? text).map fun marker => (marker, size marker.spelling) := by
  cases hparse : Marker.parse? text with
  | some marker =>
    obtain ⟨rest, rfl⟩ := List.isPrefixOf_iff_prefix.1 (Marker.parse?_isPrefix hparse)
    rw [markerAt?_spelling_append, Option.map_some]
  | none =>
    rw [Option.map_none, Option.eq_none_iff_forall_ne_some]
    rintro ⟨marker, length⟩ hmarker
    unfold markerAt? at hmarker
    split at hmarker
    · next rest =>
      obtain ⟨⟨inside, after⟩, hcut, hnamed⟩ := Option.bind_eq_some_iff.1 hmarker
      obtain ⟨named, hnamed, -⟩ := Option.map_eq_some_iff.1 hnamed
      have hwhole : named.spelling ++ after = '[' :: rest := by
        rw [(eq_of_cut? hcut).1, named.spelling_eq, inside_of_markerNamed? hnamed]
        simp
      rw [← hwhole, parse?_spelling_append] at hparse
      contradiction
    · contradiction

theorem markerAt?_eq_none {text : Text} (h : ∀ mark ∈ marks, ¬mark <+: text) :
    markerAt? text = none := by
  rw [markerAt?_eq, parse?_eq_none h, Option.map_none]

end Markers

section Running

-- A scanner that has written all it has passed over, but for a run.
def Scan.behind (done run written : Text) (passed : List Text) : Scan where
  runStart := size done
  position := size (done ++ run)
  written := written
  passed := passed

variable (medium : Medium) (done run written : Text) (passed : List Text)

theorem Scan.move?_behind (moved rest : Text) :
    (behind done run written passed).move? (size moved) (done ++ run ++ moved ++ rest) =
      some { behind done run written passed with
        position := size (done ++ run ++ moved), passed := passed ++ [moved] } := by
  have hslice : slice? (behind done run written passed).position
      ((behind done run written passed).position + size moved) (done ++ run ++ moved ++ rest) =
      some moved := by
    rw [behind, ← size_append]
    exact slice?_size (done ++ run) moved rest
  rw [move?, hslice, size_append (done ++ run)]
  rfl

theorem Scan.writeMark?_behind (writing mark rest : Text) :
    (behind done run written passed).writeMark? medium writing (size mark)
        (done ++ run ++ mark ++ rest) =
      some (behind (done ++ run ++ mark) [] (written ++ medium.writeRun run ++ writing)
        (passed ++ [mark])) := by
  have hrun : slice? (behind done run written passed).runStart
      (behind done run written passed).position (done ++ run ++ mark ++ rest) = some run := by
    rw [List.append_assoc (done ++ run)]
    exact slice?_size done run (mark ++ rest)
  rw [writeMark?, hrun, Option.bind_some, move?_behind]
  simp only [behind, Option.map_some, List.append_nil]

theorem Scan.cutAtByte?_behind (rest : Text) :
    cutAtByte? (behind done run written passed).position (done ++ run ++ rest) =
      some (done ++ run, rest) :=
  cutAtByte?_size (done ++ run) rest

-- Where a mark stands the run before it is written, and the mark.
theorem Scan.step?_dash (rest : Text) :
    (behind done run written passed).step? medium (done ++ run ++ (dashMark ++ rest)) =
      some (behind (done ++ run ++ dashMark) [] (written ++ medium.writeRun run ++ medium.ndash)
        (passed ++ [dashMark])) := by
  have hbegins : dashMark.isPrefixOf (dashMark ++ rest) = true :=
    List.isPrefixOf_iff_prefix.2 (List.prefix_append _ _)
  rw [step?, cutAtByte?_behind, Option.bind_some]
  simp only [hbegins, if_true]
  rw [← List.append_assoc, writeMark?_behind]

theorem Scan.step?_tagged (marker : Marker) (rest : Text) :
    (behind done run written passed).step? medium (done ++ run ++ (marker.spelling ++ rest)) =
      some (behind (done ++ run ++ marker.spelling) []
        (written ++ medium.writeRun run ++ medium.write (.tagged marker))
        (passed ++ [marker.spelling])) := by
  have hdash : dashMark.isPrefixOf (marker.spelling ++ rest) = false := by
    obtain ⟨tag, closing⟩ := marker
    cases tag <;> cases closing <;> rfl
  rw [step?, cutAtByte?_behind, Option.bind_some]
  simp only [hdash, Bool.false_eq_true, if_false, markerAt?_spelling_append]
  rw [← List.append_assoc, writeMark?_behind]

-- Where none stands a character is added to the run.
theorem Scan.step?_char {c : Char} {rest : Text} (h : ∀ mark ∈ marks, ¬mark <+: c :: rest) :
    (behind done run written passed).step? medium (done ++ run ++ c :: rest) =
      some (behind done (run ++ [c]) written (passed ++ [[c]])) := by
  have hdash : dashMark.isPrefixOf (c :: rest) = false := by
    rw [Bool.eq_false_iff, ne_eq, List.isPrefixOf_iff_prefix]
    exact h dashMark dashMark_mem_marks
  have hsize : size [c] = c.utf8Size := by simp
  have htext : done ++ run ++ c :: rest = done ++ run ++ [c] ++ rest := by simp
  rw [step?, cutAtByte?_behind, Option.bind_some]
  simp only [hdash, Bool.false_eq_true, if_false, markerAt?_eq_none h, List.head?_cons,
    Option.elim_some]
  rw [← hsize, htext, move?_behind, behind, behind, List.append_assoc]

theorem Scan.run?_of_step? {medium : Medium} {text : Text} {scan next : Scan}
    (hlt : scan.position < size text) (h : scan.step? medium text = some next) :
    scan.run? medium text = next.run? medium text := by
  rw [run?, if_pos hlt]
  split
  · next hnone =>
    rw [h] at hnone
    contradiction
  · next found hfound =>
    rw [h, Option.some.injEq] at hfound
    rw [hfound]

theorem Scan.position_behind_lt {rest : Text} (h : rest ≠ []) :
    (behind done run written passed).position < size (done ++ run ++ rest) := by
  have hpos := size_pos_of_ne_nil h
  rw [size_append]
  exact Nat.lt_add_of_pos_right hpos

-- From wherever a scanner stands it goes on as if the text began there, but for the
-- run that it has to write first.
theorem Scan.run?_bind_finish? (rest : Text) :
    ((behind done run written passed).run? medium (done ++ run ++ rest)).bind
        (·.finish? medium (done ++ run ++ rest)) =
      some (behind (done ++ run ++ rest) []
        (written ++ medium.writeRun run ++ medium.convert rest)
        (passed ++ (pieces rest).map Piece.spelling)) := by
  induction rest using pieces_induction generalizing done run written passed with
  | nil =>
    have hend : (behind done run written passed).run? medium (done ++ run ++ []) =
        some (behind done run written passed) := by
      rw [run?, if_neg]
      simp [behind]
    have hcut : cutAtByte? (behind done run written passed).runStart (done ++ run) =
        some (done, run) := cutAtByte?_size done run
    rw [hend, Option.bind_some, finish?, List.append_nil, hcut]
    simp [behind, Medium.convert]
  | dash rest ih =>
    have htext : done ++ run ++ (dashMark ++ rest) = done ++ run ++ dashMark ++ [] ++ rest := by
      simp
    have hlt := position_behind_lt done run written passed
      (List.append_ne_nil_of_left_ne_nil (by decide : dashMark ≠ []) rest)
    rw [run?_of_step? hlt (step?_dash ..), htext, ih, Medium.convert, Medium.convert,
      pieces_dashMark_append]
    simp [Medium.writeRun, Medium.write, Piece.spelling]
  | tagged marker rest ih =>
    have htext : done ++ run ++ (marker.spelling ++ rest) =
        done ++ run ++ marker.spelling ++ [] ++ rest := by
      simp
    have hlt := position_behind_lt done run written passed
      (List.append_ne_nil_of_left_ne_nil marker.spelling_ne_nil rest)
    rw [run?_of_step? hlt (step?_tagged ..), htext, ih, Medium.convert, Medium.convert,
      pieces_spelling_append]
    simp [Medium.writeRun, Piece.spelling]
  | char c rest h ih =>
    have htext : done ++ run ++ c :: rest = done ++ (run ++ [c]) ++ rest := by
      simp
    have hlt := position_behind_lt done run written passed (List.cons_ne_nil c rest)
    rw [run?_of_step? hlt (step?_char _ _ _ _ _ h), htext, ih, Medium.convert, Medium.convert,
      pieces_cons_of_not_mark h]
    simp [Medium.writeRun, Medium.write, Piece.spelling]

-- The two cursors meet at the end of the text, and every run has been written once.
theorem scan?_eq (text : Text) :
    medium.scan? text =
      some (.behind text [] (medium.convert text) ((pieces text).map Piece.spelling)) := by
  have hrun : medium.scan? text = _ := Scan.run?_bind_finish? medium [] [] [] [] text
  simpa [Medium.writeRun] using hrun

end Running

-- What a text is read as: marks that are complete, and characters where none begins.
theorem mark_or_char_of_pieces {text : Text} {earlier later : List Piece} {piece : Piece}
    (h : pieces text = earlier ++ piece :: later) :
    piece.spelling ∈ marks ∨ ∃ c, piece = .char c ∧
      ∀ mark ∈ marks, ¬mark <+: c :: later.flatMap Piece.spelling := by
  induction text using pieces_induction generalizing earlier with
  | nil => simp at h
  | dash rest ih =>
    rw [pieces_dashMark_append] at h
    rcases List.cons_eq_append_iff.1 h with ⟨-, hhead⟩ | ⟨others, -, hrest⟩
    · obtain ⟨rfl, -⟩ := List.cons.inj hhead
      exact .inl dashMark_mem_marks
    · exact ih hrest
  | tagged marker rest ih =>
    rw [pieces_spelling_append] at h
    rcases List.cons_eq_append_iff.1 h with ⟨-, hhead⟩ | ⟨others, -, hrest⟩
    · obtain ⟨rfl, -⟩ := List.cons.inj hhead
      exact .inl (spelling_mem_marks marker)
    · exact ih hrest
  | char c rest hmarks ih =>
    rw [pieces_cons_of_not_mark hmarks] at h
    rcases List.cons_eq_append_iff.1 h with ⟨-, hhead⟩ | ⟨others, -, hrest⟩
    · obtain ⟨rfl, rfl⟩ := List.cons.inj hhead
      rw [flatMap_spelling_pieces]
      exact .inr ⟨c, rfl, hmarks⟩
    · exact ih hrest

theorem convert_raw (text : Text) : Medium.raw.convert text = text := by
  have hwrite : Medium.raw.write = Piece.spelling := by
    funext piece
    cases piece with
    | dash => rfl
    | tagged marker =>
      obtain ⟨tag, closing⟩ := marker
      cases closing <;> rfl
    | char c => rfl
  rw [Medium.convert, hwrite, flatMap_spelling_pieces]

-- A medium that writes every mark as it is spelled gives back the text, as does the
-- export that does not look at it. Each byte is passed over once: in a complete mark,
-- or in a character with which none begins.
theorem scan?_raw (text : Text) :
    ∃ scan, Medium.raw.scan? text = some scan ∧
      scan.written = text ∧ Format.raw.export text = scan.written ∧
      scan.runStart = size text ∧ scan.position = size text ∧ scan.passed.flatten = text ∧
      (∀ earlier part later, scan.passed = earlier ++ part :: later →
        part ∈ marks ∨ ∃ c, part = [c] ∧ ∀ mark ∈ marks, ¬mark <+: part ++ later.flatten) ∧
      ∀ medium : Medium, ∃ other, medium.scan? text = some other ∧
        other.written = medium.convert text ∧ other.passed = scan.passed := by
  refine ⟨_, scan?_eq Medium.raw text, convert_raw text, (convert_raw text).symm, rfl, ?_, ?_,
    ?_, fun medium => ⟨_, scan?_eq medium text, rfl, rfl⟩⟩
  · simp [Scan.behind]
  · have hspelling := flatMap_spelling_pieces text
    rwa [List.flatMap_def] at hspelling
  · intro earlier part later hpassed
    obtain ⟨before, rest, hpieces, rfl, hrest⟩ := List.map_eq_append_iff.1 hpassed
    obtain ⟨piece, after, rfl, rfl, rfl⟩ := List.map_eq_cons_iff.1 hrest
    rw [← List.flatMap_def]
    rcases mark_or_char_of_pieces hpieces with hmark | ⟨c, rfl, hmarks⟩
    · exact .inl hmark
    · exact .inr ⟨c, rfl, hmarks⟩

-- Every bracket that opens in a text is followed there by one that closes.
def ClosesBrackets (text : Text) : Prop :=
  ∀ rest, '[' :: rest <:+ text → ']' ∈ rest

section Concatenating

variable {text left : Text}

theorem closesBrackets_iff :
    ClosesBrackets text ↔ ∀ ending ∈ text.tails, ending.head? = some '[' → ']' ∈ ending := by
  constructor
  · intro h ending hending hhead
    obtain ⟨rest, rfl⟩ := List.head?_eq_some_iff.1 hhead
    exact List.mem_cons_of_mem _ (h rest ((List.mem_tails _ _).1 hending))
  · intro h rest hsuffix
    have hmem := h ('[' :: rest) ((List.mem_tails _ _).2 hsuffix) rfl
    exact List.mem_of_ne_of_mem (by decide) hmem

instance (text : Text) : Decidable (ClosesBrackets text) :=
  decidable_of_iff _ closesBrackets_iff.symm

-- A mark has no bracket that closes but its last character.
theorem bracket_not_mem_of_mark {stem tail : Text} (h : stem ++ tail ∈ marks) (htail : tail ≠ []) :
    ']' ∉ stem := by
  have hall : ∀ mark ∈ marks, ']' ∉ mark.dropLast := by decide
  have hnot := hall _ h
  rw [List.dropLast_append_of_ne_nil htail, List.mem_append, not_or] at hnot
  exact hnot.1

-- So a mark that has begun in such a text has ended there.
theorem ClosesBrackets.not_straddles (h : ClosesBrackets left) (right : Text) :
    ¬Straddles left right := by
  rintro ⟨stem, tail, hmark, hstem, htail, hsuffix, -⟩
  obtain ⟨rest, hwhole, -⟩ := exists_of_mem_marks hmark
  obtain ⟨c, others, rfl⟩ := List.exists_cons_of_ne_nil hstem
  obtain ⟨rfl, -⟩ := List.cons.inj hwhole
  exact bracket_not_mem_of_mark hmark htail (List.mem_cons_of_mem _ (h others hsuffix))

-- A text behind it is exported as if it stood alone: the scanner comes to it as to a
-- beginning, whatever run it has not written yet.
theorem export_append (h : ClosesBrackets left) (right : Text) :
    (∀ format : Format,
      format.export (left ++ right) = format.export left ++ format.export right) ∧
    ∀ medium : Medium, ∃ first second, medium.scan? left = some first ∧
      medium.scan? right = some second ∧
      medium.scan? (left ++ right) = some
        (.behind (left ++ right) [] (first.written ++ second.written)
          (first.passed ++ second.passed)) := by
  have hpieces := pieces_append (h.not_straddles right)
  have hconvert : ∀ medium : Medium,
      medium.convert (left ++ right) = medium.convert left ++ medium.convert right := by
    intro medium
    rw [Medium.convert, hpieces, List.flatMap_append, ← Medium.convert, ← Medium.convert]
  refine ⟨fun format => ?_, fun medium => ?_⟩
  · cases format with
    | raw => rfl
    | plain => exact hconvert .plain
    | html => exact hconvert .html
    | rtf => exact hconvert .rtf
  · refine ⟨_, _, scan?_eq medium left, scan?_eq medium right, ?_⟩
    rw [scan?_eq, hconvert, hpieces, List.map_append]
    rfl

end Concatenating

-- The second text begins with what would end a marker or the dash.
theorem export_append_of_halves :
    let left := "[i]Tools & [x], pp. 4[ndash]".toList
    let right := "ndash] é[/i] i]".toList
    ClosesBrackets left ∧
      (∀ format : Format,
        format.export (left ++ right) = format.export left ++ format.export right) ∧
      Format.html.export (left ++ right) =
        "<em>Tools &amp; [x], pp. 4&ndash;ndash] é</em> i]".toList := by
  intro left right
  have hcloses : ClosesBrackets left := by decide +kernel
  exact ⟨hcloses, (export_append hcloses right).1, by decide +kernel⟩

-- A bracket that is still open takes part in what follows.
example : ¬ClosesBrackets ['['] ∧ Format.plain.export ('[' :: "i]".toList) = [] ∧
    Format.plain.export ['['] ++ Format.plain.export "i]".toList = "[i]".toList := by
  decide +kernel

end Referencing.Markup
