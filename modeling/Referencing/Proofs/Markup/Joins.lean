import Mathlib.Data.List.Infix
import Referencing.Proofs.Markup.WellMarked

namespace Referencing.Markup

open Text

-- The spellings that a medium does not write character by character.
def marks : List Text :=
  dashMark :: Marker.all.map Marker.spelling

-- A mark that begins in one text and ends in the next one.
def Straddles (left right : Text) : Prop :=
  ∃ stem tail, stem ++ tail ∈ marks ∧ stem ≠ [] ∧ tail ≠ [] ∧ stem <:+ left ∧ tail <+: right

-- A mark is read across a join of texts when they are put one after the other.
def Severed (parts : List Text) : Prop :=
  ∃ before after, parts = before ++ after ∧ Straddles before.flatten after.flatten

section Marks

theorem dashMark_mem_marks : dashMark ∈ marks :=
  List.mem_cons_self

theorem spelling_mem_marks (marker : Marker) : marker.spelling ∈ marks :=
  List.mem_cons_of_mem _ (List.mem_map_of_mem marker.mem_all)

theorem eq_of_mem_marks {mark : Text} (h : mark ∈ marks) :
    mark = dashMark ∨ ∃ marker : Marker, mark = marker.spelling := by
  rcases List.mem_cons.1 h with rfl | hmem
  · exact .inl rfl
  · obtain ⟨marker, -, rfl⟩ := List.mem_map.1 hmem
    exact .inr ⟨marker, rfl⟩

-- A mark begins with a bracket, and has no other one that opens.
theorem exists_of_mem_marks {mark : Text} (h : mark ∈ marks) :
    ∃ rest, mark = '[' :: rest ∧ '[' ∉ rest := by
  have hall : ∀ mark ∈ marks, mark.head? = some '[' ∧ '[' ∉ mark.tail := by decide
  obtain ⟨hhead, htail⟩ := hall mark h
  exact ⟨mark.tail, (List.cons_head?_tail hhead).symm, htail⟩

theorem pieces_dashMark_append (rest : Text) : pieces (dashMark ++ rest) = .dash :: pieces rest := by
  rw [dashMark, List.cons_append, pieces, ← List.cons_append, ← dashMark]
  have hfirst : Piece.first '[' (['n', 'd', 'a', 's', 'h', ']'] ++ rest) = .dash := rfl
  rw [hfirst]
  simp only [Piece.spelling, List.drop_left]

-- A mark that a text begins with is read as one piece.
theorem exists_piece_of_mem_marks {mark : Text} (h : mark ∈ marks) :
    ∃ piece : Piece, (∀ c, piece ≠ .char c) ∧
      ∀ rest, pieces (mark ++ rest) = piece :: pieces rest := by
  rcases eq_of_mem_marks h with rfl | ⟨marker, rfl⟩
  · exact ⟨.dash, by simp, pieces_dashMark_append⟩
  · exact ⟨.tagged marker, by simp, pieces_spelling_append marker⟩

theorem parse?_eq_none {text : Text} (h : ∀ mark ∈ marks, ¬mark <+: text) :
    Marker.parse? text = none := by
  rw [Marker.parse?, List.find?_eq_none]
  intro marker _
  rw [List.isPrefixOf_iff_prefix]
  exact h _ (spelling_mem_marks marker)

-- What no mark begins is read as a character.
theorem pieces_cons_of_not_mark {c : Char} {rest : Text}
    (h : ∀ mark ∈ marks, ¬mark <+: c :: rest) : pieces (c :: rest) = .char c :: pieces rest := by
  have hdash : ¬dashMark <+: c :: rest := h _ dashMark_mem_marks
  have hfirst : Piece.first c rest = .char c := by
    rw [← List.isPrefixOf_iff_prefix] at hdash
    simp [Piece.first, hdash, parse?_eq_none h]
  rw [pieces, hfirst]
  simp [Piece.spelling]

-- A mark that a text and what follows it begin with is in the text, or straddles
-- its end.
theorem prefix_or_straddles {mark left right : Text} (h : mark ∈ marks) (hleft : left ≠ [])
    (hbegins : mark <+: left ++ right) : mark <+: left ∨ Straddles left right := by
  obtain ⟨rest, hrest⟩ := hbegins
  rcases List.append_eq_append_iff.1 hrest with ⟨after, hafter, -⟩ | ⟨tail, rfl, htail⟩
  · exact .inl ⟨after, hafter.symm⟩
  · by_cases hempty : tail = []
    · exact .inl ⟨[], by simp [hempty]⟩
    · exact .inr ⟨left, tail, h, hleft, hempty, List.suffix_refl left, ⟨rest, htail.symm⟩⟩

end Marks

section Straddles

variable {left right : Text}

theorem Straddles.append_left (h : Straddles left right) (before : Text) :
    Straddles (before ++ left) right := by
  obtain ⟨stem, tail, hmark, hstem, htail, hsuffix, hbegins⟩ := h
  exact ⟨stem, tail, hmark, hstem, htail, List.suffix_append_of_suffix hsuffix, hbegins⟩

-- Where no mark straddles the join, two texts are read one after the other.
theorem pieces_append (h : ¬Straddles left right) :
    pieces (left ++ right) = pieces left ++ pieces right := by
  induction hlength : left.length using Nat.strongRecOn generalizing left with
  | ind length ih =>
    by_cases hmark : ∃ mark ∈ marks, mark <+: left
    · obtain ⟨mark, hmem, rest, rfl⟩ := hmark
      obtain ⟨piece, -, hpieces⟩ := exists_piece_of_mem_marks hmem
      obtain ⟨tail, rfl, -⟩ := exists_of_mem_marks hmem
      rw [List.length_append, List.length_cons] at hlength
      have hrest : ¬Straddles rest right := fun hstraddles => h (hstraddles.append_left _)
      rw [List.append_assoc, hpieces, hpieces, ih rest.length (by omega) hrest rfl,
        List.cons_append]
    · cases left with
      | nil => simp
      | cons c rest =>
        rw [List.length_cons] at hlength
        have hrest : ¬Straddles rest right := fun hstraddles => h (hstraddles.append_left [c])
        have hleft : ∀ mark ∈ marks, ¬mark <+: c :: rest :=
          fun mark hmem hbegins => hmark ⟨mark, hmem, hbegins⟩
        have hwhole : ∀ mark ∈ marks, ¬mark <+: c :: (rest ++ right) := by
          intro mark hmem hbegins
          rcases prefix_or_straddles hmem (List.cons_ne_nil c rest) hbegins with hin | hacross
          · exact hleft mark hmem hin
          · exact h hacross
        rw [List.cons_append, pieces_cons_of_not_mark hwhole, pieces_cons_of_not_mark hleft,
          ih rest.length (by omega) hrest rfl, List.cons_append]

-- Nothing that has begun ends behind a bracket that opens, so a marker at the end of a
-- text is read as one.
theorem pieces_append_spelling (text : Text) (marker : Marker) :
    pieces (text ++ marker.spelling) = pieces text ++ [.tagged marker] := by
  have hstraddles : ¬Straddles text marker.spelling := by
    rintro ⟨stem, tail, hmark, hstem, htail, -, hprefix⟩
    obtain ⟨rest, hwhole, hrest⟩ := exists_of_mem_marks hmark
    obtain ⟨c, others, rfl⟩ := List.exists_cons_of_ne_nil hstem
    obtain ⟨first, tail, rfl⟩ := List.exists_cons_of_ne_nil htail
    obtain ⟨-, rfl⟩ := List.cons.inj hwhole
    have hfirst : first = '[' := (List.cons_prefix_cons.1 hprefix).1
    exact hrest (by simp [hfirst])
  have hmarker : pieces marker.spelling = [.tagged marker] := by
    simpa using pieces_spelling_append marker []
  rw [pieces_append hstraddles, hmarker]

end Straddles

-- How many opening brackets of a text begin no mark.
def literals (text : Text) : Nat :=
  (pieces text).count (.char '[')

-- The first character of a text is one of them.
def BeginsLiteral (text : Text) : Prop :=
  text.head? = some '[' ∧ ∀ mark ∈ marks, ¬mark <+: text

section Literals

variable {c : Char} {left right rest : Text}

@[simp] theorem literals_nil : literals [] = 0 := by
  simp [literals]

theorem literals_cons_of_ne (rest : Text) (h : c ≠ '[') :
    literals (c :: rest) = literals rest := by
  rw [literals, pieces_cons_of_ne rest h, List.count_cons_of_ne (by simpa using h), literals]

theorem literals_append_of_not_mem (right : Text) (h : '[' ∉ left) :
    literals (left ++ right) = literals right := by
  induction left with
  | nil => rfl
  | cons c rest ih =>
    rw [List.mem_cons, not_or] at h
    rw [List.cons_append, literals_cons_of_ne _ (Ne.symm h.1), ih h.2]

theorem literals_cons_of_mark {mark : Text} (h : mark ∈ marks) (hbegins : mark <+: c :: rest) :
    literals (c :: rest) = literals rest := by
  obtain ⟨piece, hpiece, hpieces⟩ := exists_piece_of_mem_marks h
  obtain ⟨tail, rfl, htail⟩ := exists_of_mem_marks h
  obtain ⟨after, hafter⟩ := hbegins
  rw [List.cons_append, List.cons.injEq] at hafter
  obtain ⟨rfl, rfl⟩ := hafter
  rw [← List.cons_append, literals, hpieces, List.count_cons_of_ne (hpiece _), ← literals,
    literals_append_of_not_mem after htail]

theorem literals_cons_of_beginsLiteral (h : BeginsLiteral (c :: rest)) :
    literals (c :: rest) = literals rest + 1 := by
  obtain ⟨hhead, hmarks⟩ := h
  rw [List.head?_cons, Option.some.injEq] at hhead
  rw [literals, pieces_cons_of_not_mark hmarks, hhead, List.count_cons_self, literals]

theorem literals_cons_of_not_beginsLiteral (h : ¬BeginsLiteral (c :: rest)) :
    literals (c :: rest) = literals rest := by
  by_cases hbracket : c = '['
  · by_cases hmark : ∃ mark ∈ marks, mark <+: c :: rest
    · obtain ⟨mark, hmem, hbegins⟩ := hmark
      exact literals_cons_of_mark hmem hbegins
    · refine absurd ⟨congrArg some hbracket, ?_⟩ h
      exact fun mark hmem hbegins => hmark ⟨mark, hmem, hbegins⟩
  · exact literals_cons_of_ne rest hbracket

theorem BeginsLiteral.of_append (h : BeginsLiteral (c :: (rest ++ right))) :
    BeginsLiteral (c :: rest) :=
  ⟨h.1, fun mark hmem hbegins => h.2 mark hmem (hbegins.trans (List.prefix_append _ right))⟩

-- What follows a bracket can only complete a mark.
theorem literals_cons_append_le (c : Char) (rest right : Text) :
    literals (c :: (rest ++ right)) + literals rest ≤
      literals (c :: rest) + literals (rest ++ right) := by
  by_cases hwhole : BeginsLiteral (c :: (rest ++ right))
  · rw [literals_cons_of_beginsLiteral hwhole, literals_cons_of_beginsLiteral hwhole.of_append]
    omega
  · rw [literals_cons_of_not_beginsLiteral hwhole]
    by_cases hleft : BeginsLiteral (c :: rest)
    · rw [literals_cons_of_beginsLiteral hleft]
      omega
    · rw [literals_cons_of_not_beginsLiteral hleft]
      omega

theorem literals_append_le (left right : Text) :
    literals (left ++ right) ≤ literals left + literals right := by
  induction left with
  | nil => simp
  | cons c rest ih =>
    have hfirst := literals_cons_append_le c rest right
    rw [List.cons_append]
    omega

theorem eq_of_mark_prefix {mark other : Text} (hmark : mark ∈ marks) (hother : other ∈ marks)
    (h : mark <+: other) : mark = other := by
  have hall : ∀ mark ∈ marks, ∀ other ∈ marks, mark <+: other → mark = other := by decide
  exact hall mark hmark other hother h

-- A mark that is cut off is only literal text.
theorem beginsLiteral_of_mark {stem tail : Text} (h : stem ++ tail ∈ marks) (hstem : stem ≠ [])
    (htail : tail ≠ []) : BeginsLiteral stem := by
  obtain ⟨c, rest, rfl⟩ := List.exists_cons_of_ne_nil hstem
  obtain ⟨others, hothers, -⟩ := exists_of_mem_marks h
  refine ⟨congrArg List.head? hothers, fun mark hmem hbegins => ?_⟩
  have hsame := eq_of_mark_prefix hmem h (hbegins.trans (List.prefix_append _ tail))
  have hlength := hbegins.length_le
  have hpos := List.length_pos_iff.2 htail
  rw [hsame, List.length_append] at hlength
  omega

-- The bracket of a mark that straddles a join is literal before it, and not in
-- the whole.
theorem literals_append_lt (h : Straddles left right) :
    literals (left ++ right) < literals left + literals right := by
  obtain ⟨stem, tail, hmark, hstem, htail, hsuffix, hbegins⟩ := h
  induction left with
  | nil => exact absurd (List.suffix_nil.1 hsuffix) hstem
  | cons c rest ih =>
    rw [List.cons_append]
    rcases List.suffix_cons_iff.1 hsuffix with rfl | hrest
    · have hwhole : c :: rest ++ tail <+: c :: (rest ++ right) :=
        (List.prefix_append_right_inj (c :: rest)).2 hbegins
      have hle := literals_append_le rest right
      rw [literals_cons_of_beginsLiteral (beginsLiteral_of_mark hmark hstem htail),
        literals_cons_of_mark hmark hwhole]
      omega
    · have hfirst := literals_cons_append_le c rest right
      have hlt := ih hrest
      omega

end Literals

section Severed

variable {parts : List Text}

theorem Severed.cons (h : Severed parts) (part : Text) : Severed (part :: parts) := by
  obtain ⟨before, after, rfl, hstraddles⟩ := h
  refine ⟨part :: before, after, rfl, ?_⟩
  rw [List.flatten_cons]
  exact hstraddles.append_left part

theorem severed_of_straddles {part : Text} (h : Straddles part parts.flatten) :
    Severed (part :: parts) :=
  ⟨[part], parts, rfl, by simpa using h⟩

theorem pieces_flatten (h : ¬Severed parts) : pieces parts.flatten = parts.flatMap pieces := by
  induction parts with
  | nil => simp
  | cons part rest ih =>
    have hpart : ¬Straddles part rest.flatten := fun hstraddles => h (severed_of_straddles hstraddles)
    have hrest : ¬Severed rest := fun hsevered => h (hsevered.cons part)
    rw [List.flatten_cons, pieces_append hpart, ih hrest, List.flatMap_cons]

theorem literals_flatten_le (parts : List Text) :
    literals parts.flatten ≤ (parts.flatMap pieces).count (.char '[') := by
  induction parts with
  | nil => simp
  | cons part rest ih =>
    have hjoin := literals_append_le part rest.flatten
    have hpart : literals part = (pieces part).count (.char '[') := rfl
    rw [List.flatten_cons, List.flatMap_cons, List.count_append]
    omega

theorem literals_flatten_lt (h : Severed parts) :
    literals parts.flatten < (parts.flatMap pieces).count (.char '[') := by
  obtain ⟨before, after, rfl, hstraddles⟩ := h
  have hjoin := literals_append_lt hstraddles
  have hbefore := literals_flatten_le before
  have hafter := literals_flatten_le after
  rw [List.flatten_append, List.flatMap_append, List.count_append]
  omega

-- Texts in which every opening bracket begins a mark can be joined.
theorem not_severed_of_literals (h : ∀ part ∈ parts, literals part = 0) : ¬Severed parts := by
  intro hsevered
  have hnone : (parts.flatMap pieces).count (.char '[') = 0 := by
    rw [List.count_eq_zero, List.mem_flatMap]
    rintro ⟨part, hpart, hmem⟩
    exact List.count_eq_zero.1 (h part hpart) hmem
  have hlt := literals_flatten_lt hsevered
  omega

end Severed

section Export

-- A medium writes an opening bracket for that character, and for nothing else.
structure Medium.KeepsBrackets (medium : Medium) : Prop where
  escape : ∀ c, (medium.escape c).count '[' = if c = '[' then 1 else 0
  opening : ∀ tag, '[' ∉ medium.opening tag
  closing : ∀ tag, '[' ∉ medium.closing tag
  ndash : '[' ∉ medium.ndash

theorem count_singleton_bracket (c : Char) : [c].count '[' = if c = '[' then 1 else 0 := by
  simp [List.count_singleton]

theorem keepsBrackets_plain : Medium.plain.KeepsBrackets where
  escape := count_singleton_bracket
  opening _ := List.not_mem_nil
  closing _ := List.not_mem_nil
  ndash := by decide

theorem keepsBrackets_html : Medium.html.KeepsBrackets where
  escape c := by
    show (Medium.htmlEscape c).count '[' = _
    unfold Medium.htmlEscape
    split
    all_goals first | decide | exact count_singleton_bracket c
  opening tag := by cases tag <;> decide
  closing tag := by cases tag <;> decide
  ndash := by decide

theorem not_mem_rtfUnit (unit : Nat) : '[' ∉ Medium.rtfUnit unit := by
  have hdigits : ∀ number, '[' ∉ ofNat number := by
    intro number hmem
    have hdigit := Nat.isDigit_of_mem_toDigits (by omega) (by omega) hmem
    exact absurd hdigit (by decide)
  by_cases h : unit < 0x8000 <;> simp [Medium.rtfUnit, h, hdigits]

theorem keepsBrackets_rtf : Medium.rtf.KeepsBrackets where
  escape c := by
    simp only [Medium.rtf, Medium.rtfEscape]
    split
    · next h =>
      have hne : c ≠ '[' := by
        rintro rfl
        exact absurd h (by decide)
      simp [hne]
    · split
      · exact count_singleton_bracket c
      · next h =>
        have hne : c ≠ '[' := by
          rintro rfl
          exact h (by decide)
        rw [if_neg hne, List.count_eq_zero]
        simp [not_mem_rtfUnit]
  opening tag := by cases tag <;> decide
  closing tag := by cases tag <;> decide
  ndash := by decide

theorem keepsBrackets_medium {format : Format} (h : format ≠ .raw) :
    format.medium.KeepsBrackets := by
  cases format with
  | plain => exact keepsBrackets_plain
  | html => exact keepsBrackets_html
  | rtf => exact keepsBrackets_rtf
  | raw => exact absurd rfl h

theorem Medium.KeepsBrackets.count_write {medium : Medium} (h : medium.KeepsBrackets)
    (piece : Piece) : (medium.write piece).count '[' = if piece = .char '[' then 1 else 0 := by
  cases piece with
  | dash => exact List.count_eq_zero.2 h.ndash
  | tagged marker =>
    obtain ⟨tag, closing⟩ := marker
    cases closing with
    | false => exact List.count_eq_zero.2 (h.opening tag)
    | true => exact List.count_eq_zero.2 (h.closing tag)
  | char c =>
    rw [write, h.escape]
    simp only [Piece.char.injEq]

theorem Medium.KeepsBrackets.count_flatMap_write {medium : Medium} (h : medium.KeepsBrackets)
    (pieces : List Piece) :
    (pieces.flatMap medium.write).count '[' = pieces.count (.char '[') := by
  induction pieces with
  | nil => rfl
  | cons piece rest ih =>
    rw [List.flatMap_cons, List.count_append, ih, h.count_write, List.count_cons, Nat.add_comm]
    simp

theorem Medium.flatMap_convert (medium : Medium) (parts : List Text) :
    parts.flatMap medium.convert = (parts.flatMap pieces).flatMap medium.write :=
  List.flatMap_assoc.symm

theorem export_of_ne_raw {format : Format} (h : format ≠ .raw) (text : Text) :
    format.export text = format.medium.convert text := by
  cases format <;> first | rfl | exact absurd rfl h

-- Texts are exported together as they are one by one, unless a mark is read
-- across a join of them.
theorem export_flatten_iff (format : Format) (parts : List Text) :
    format.export parts.flatten = parts.flatMap format.export ↔
      format = .raw ∨ ¬Severed parts := by
  by_cases hraw : format = .raw
  · subst hraw
    have hexport : Format.raw.export = id := rfl
    rw [hexport, List.flatMap_id]
    exact ⟨fun _ => .inl rfl, fun _ => rfl⟩
  · have hexport : format.export = format.medium.convert := funext (export_of_ne_raw hraw)
    rw [hexport, or_iff_right hraw, Medium.flatMap_convert, Medium.convert]
    constructor
    · intro hsame hsevered
      have hlt := literals_flatten_lt hsevered
      have hkeeps := keepsBrackets_medium hraw
      have hcount := congrArg (List.count '[') hsame
      rw [hkeeps.count_flatMap_write, hkeeps.count_flatMap_write] at hcount
      exact absurd hcount (Nat.ne_of_lt hlt)
    · intro h
      rw [pieces_flatten h]

end Export

end Referencing.Markup
