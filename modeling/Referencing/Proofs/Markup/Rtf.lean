import Mathlib.Data.List.Basic
import Referencing.Proofs.Markup.Closings
import Referencing.Proofs.Markup.Reading
import Referencing.Text.Numeral

namespace Referencing.Markup

open Text

-- All that is written for anything but a character of its own or a code unit.
def rtfSymbols : List (Text × Piece) :=
  [(['\\', '\\'], .char '\\'), (['\\', '\x7b'], .char '\x7b'), (['\\', '\x7d'], .char '\x7d'),
    ("\\endash ".toList, .dash), (['\x7d'], .tagged ⟨.bold, true⟩)] ++
  Tag.all.map fun tag => (Medium.rtf.opening tag, .tagged ⟨tag, false⟩)

-- The code unit that a text begins with, written as a number that counts modulo 2^16,
-- and what follows it.
def unitAt? : Text → Option (Nat × Text)
  | '\\' :: 'u' :: rest =>
    let negative := rest.head? = some '-'
    let numeral := if negative then rest.tail else rest
    let digits := numeral.takeWhile isDigit
    let magnitude : Int := numeralValue digits
    match numeral.dropWhile isDigit with
    | '?' :: after =>
      if digits = [] then none
      else some (((if negative then -magnitude else magnitude) % 0x10000).toNat, after)
    | _ => none
  | _ => none

-- The character that one code unit stands for, or two that form a pair.
def characterAt? (text : Text) : Option (Char × Text) := do
  let (first, rest) ← unitAt? text
  if 0xD800 ≤ first && first < 0xDC00 then
    let (second, rest) ← unitAt? rest
    if 0xDC00 ≤ second && second < 0xE000 then
      let c ← codePoint? (0x10000 + (first - 0xD800) * 0x400 + (second - 0xDC00))
      some (c, rest)
    else none
  else
    let c ← codePoint? first
    some (c, rest)

def rtfReader : Reader Piece :=
  .ofTable rtfSymbols fun c rest =>
    match characterAt? (c :: rest) with
    | some (found, after) => (.char found, rest.length - after.length)
    | none => (.char c, 0)

-- The text whose export is read. RTF does not tell which tag is closed, so all closing
-- markers are read alike.
def readRtf (text : Text) : Text :=
  (rtfReader.read text).flatMap Piece.spelling

-- The braces that no backslash takes the meaning from.
def bareBraces : Text → Text
  | [] => []
  | '\\' :: _ :: rest => bareBraces rest
  | c :: rest => if c = '\x7b' || c = '\x7d' then c :: bareBraces rest else bareBraces rest

-- The brace that a marker is written with.
def Marker.brace (marker : Marker) : Char :=
  if marker.closing then '\x7d' else '\x7b'

section Units

theorem takeWhile_ofNat (n : Nat) (after : Text) :
    (ofNat n ++ '?' :: after).takeWhile isDigit = ofNat n := by
  rw [List.takeWhile_append_of_pos fun c hc => isDigit_of_mem_ofNat hc,
    List.takeWhile_cons_of_neg (by decide), List.append_nil]

theorem dropWhile_ofNat (n : Nat) (after : Text) :
    (ofNat n ++ '?' :: after).dropWhile isDigit = '?' :: after := by
  rw [List.dropWhile_append_of_pos fun c hc => isDigit_of_mem_ofNat hc,
    List.dropWhile_cons_of_neg (by decide)]

theorem head?_ofNat_append_ne (n : Nat) (after : Text) : (ofNat n ++ after).head? ≠ some '-' := by
  obtain ⟨first, rest, hdigits⟩ := List.exists_cons_of_ne_nil (ofNat_ne_nil n)
  rw [hdigits, List.cons_append, List.head?_cons, ne_eq, Option.some.injEq]
  rintro rfl
  have hdigit : isDigit '-' = true := isDigit_of_mem_ofNat (n := n) (by simp [hdigits])
  exact absurd hdigit (by decide)

-- A code unit is read back, also where its number is negative.
theorem unitAt?_rtfUnit_append {unit : Nat} (h : unit < 0x10000) (after : Text) :
    unitAt? (Medium.rtfUnit unit ++ after) = some (unit, after) := by
  by_cases hsmall : unit < 0x8000
  · have hwritten : Medium.rtfUnit unit ++ after = '\\' :: 'u' :: (ofNat unit ++ '?' :: after) := by
      simp [Medium.rtfUnit, hsmall]
    rw [hwritten]
    simp only [unitAt?, head?_ofNat_append_ne, if_false,
      takeWhile_ofNat, dropWhile_ofNat, ofNat_ne_nil, numeralValue_ofNat, Option.some.injEq,
      Prod.mk.injEq, and_true]
    omega
  · have hwritten : Medium.rtfUnit unit ++ after =
        '\\' :: 'u' :: '-' :: (ofNat (0x10000 - unit) ++ '?' :: after) := by
      simp [Medium.rtfUnit, hsmall]
    rw [hwritten]
    simp only [unitAt?, List.head?_cons, if_true, List.tail_cons, takeWhile_ofNat,
      dropWhile_ofNat, ofNat_ne_nil, if_false, numeralValue_ofNat, Option.some.injEq,
      Prod.mk.injEq, and_true]
    omega

theorem exists_rtfUnit_eq (unit : Nat) :
    ∃ number, Medium.rtfUnit unit = '\\' :: 'u' :: (number ++ ['?']) ∧
      ∀ c ∈ number, c = '-' ∨ isDigit c = true := by
  by_cases hsmall : unit < 0x8000
  · refine ⟨ofNat unit, by simp [Medium.rtfUnit, hsmall], ?_⟩
    exact fun c hmem => .inr (isDigit_of_mem_ofNat hmem)
  · refine ⟨'-' :: ofNat (0x10000 - unit), by simp [Medium.rtfUnit, hsmall], ?_⟩
    rw [List.forall_mem_cons]
    exact ⟨.inl rfl, fun c hmem => .inr (isDigit_of_mem_ofNat hmem)⟩

theorem codePoint?_toNat (c : Char) : codePoint? c.toNat = some c := by
  have hvalid : c.toNat.isValidChar := c.valid
  rw [codePoint?, dif_pos hvalid]
  rfl

theorem characterAt?_of_pair {text after rest : Text} {first second : Nat} {c : Char}
    (hfirst : unitAt? text = some (first, after)) (hsecond : unitAt? after = some (second, rest))
    (hhigh : 0xD800 ≤ first ∧ first < 0xDC00) (hlow : 0xDC00 ≤ second ∧ second < 0xE000)
    (hc : 0x10000 + (first - 0xD800) * 0x400 + (second - 0xDC00) = c.toNat) :
    characterAt? text = some (c, rest) := by
  simp [characterAt?, hfirst, hsecond, hhigh, hlow, hc, codePoint?_toNat]

theorem characterAt?_of_single {text rest : Text} {c : Char}
    (h : unitAt? text = some (c.toNat, rest)) : characterAt? text = some (c, rest) := by
  have hvalid : c.toNat < 0xD800 ∨ 0xDFFF < c.toNat ∧ c.toNat < 0x110000 := c.valid
  have hsingle : ¬(0xD800 ≤ c.toNat ∧ c.toNat < 0xDC00) := by omega
  simp [characterAt?, h, hsingle, codePoint?_toNat]

-- A character beyond ASCII is read back from its code units.
theorem characterAt?_units_append (c : Char) (after : Text) :
    characterAt? ((Medium.units c).flatMap Medium.rtfUnit ++ after) = some (c, after) := by
  have hvalid : c.toNat < 0xD800 ∨ 0xDFFF < c.toNat ∧ c.toNat < 0x110000 := c.valid
  by_cases hone : c.toNat < 0x10000
  · rw [Medium.units, if_pos hone, List.flatMap_singleton]
    exact characterAt?_of_single (unitAt?_rtfUnit_append hone after)
  · rw [Medium.units, if_neg hone]
    generalize hoffset : c.toNat - 0x10000 = offset
    simp only [List.flatMap_cons, List.flatMap_nil, List.append_nil, List.append_assoc]
    generalize hfirst : 0xD800 + offset / 0x400 = first
    generalize hsecond : 0xDC00 + offset % 0x400 = second
    exact characterAt?_of_pair (unitAt?_rtfUnit_append (by omega) _)
      (unitAt?_rtfUnit_append (by omega) _) (by omega) (by omega) (by omega)

end Units

section Reading

theorem rtfReader_of_ne {c : Char} (rest : Text) (hbackslash : c ≠ '\\') (hopening : c ≠ '\x7b')
    (hclosing : c ≠ '\x7d') : rtfReader c rest = (.char c, 0) := by
  have hheads : ∀ entry ∈ rtfSymbols,
      entry.1.head? ∈ ['\\', '\x7b', '\x7d'].map some := by decide +kernel
  have hchar : characterAt? (c :: rest) = none := by
    have hunit : unitAt? (c :: rest) = none := by
      unfold unitAt?
      split
      · next heq => exact absurd (List.cons.inj heq).1 hbackslash
      · rfl
    rw [characterAt?, hunit]
    rfl
  rw [rtfReader, Reader.ofTable_of_not_mem rest hheads (by simp [hbackslash, hopening, hclosing]),
    hchar]

-- No symbol begins as a code unit does.
theorem rtfReader_of_unit {c : Char} {written rest : Text}
    (h : characterAt? ('\\' :: 'u' :: (written ++ rest)) = some (c, rest)) :
    rtfReader '\\' ('u' :: written ++ rest) = (.char c, ('u' :: written).length) := by
  have hnone : rtfSymbols.find? (·.1.isPrefixOf ('\\' :: 'u' :: (written ++ rest))) = none := rfl
  simp only [rtfReader, Reader.ofTable, List.cons_append, hnone, h, List.length_cons,
    List.length_append]
  congr 1
  omega

theorem exists_units_eq (c : Char) :
    ∃ written, (Medium.units c).flatMap Medium.rtfUnit = '\\' :: 'u' :: written := by
  have hunit : ∀ unit rest, ∃ written,
      Medium.rtfUnit unit ++ rest = '\\' :: 'u' :: written := fun _ _ => ⟨_, rfl⟩
  unfold Medium.units
  split
  · exact hunit _ _
  · exact hunit _ _

-- The characters that RTF gives a meaning, those that it takes as they are, and those
-- that it has no room for.
theorem rtfEscape_cases (c : Char) :
    (c = '\\' ∨ c = '\x7b' ∨ c = '\x7d') ∧ Medium.rtfEscape c = ['\\', c] ∨
      (c ≠ '\\' ∧ c ≠ '\x7b' ∧ c ≠ '\x7d') ∧ c.toNat < 0x80 ∧ Medium.rtfEscape c = [c] ∨
      Medium.rtfEscape c = (Medium.units c).flatMap Medium.rtfUnit := by
  unfold Medium.rtfEscape
  split
  · next h => exact .inl ⟨by simpa [or_assoc] using h, rfl⟩
  · next h =>
    right
    split
    · next hascii => exact .inl ⟨by simpa [not_or, and_assoc] using h, hascii, rfl⟩
    · exact .inr rfl

theorem recognizes_rtfReader : rtfReader.Recognizes Medium.rtf Piece.merged := by
  intro piece rest
  cases piece with
  | dash => exact ⟨'\\', "endash ".toList, rfl, rfl⟩
  | tagged marker =>
    obtain ⟨tag, closing⟩ := marker
    cases closing with
    | true => exact ⟨'\x7d', [], rfl, rfl⟩
    | false => cases tag <;> exact ⟨'\x7b', _, rfl, rfl⟩
  | char c =>
    rcases rtfEscape_cases c with ⟨hmeant, hescape⟩ | ⟨⟨hb, ho, hc⟩, -, hself⟩ | hunits
    · refine ⟨'\\', [c], hescape, ?_⟩
      rcases hmeant with rfl | rfl | rfl <;> rfl
    · exact ⟨c, [], hself, rtfReader_of_ne rest hb ho hc⟩
    · obtain ⟨written, hwritten⟩ := exists_units_eq c
      have hread := characterAt?_units_append c rest
      rw [hwritten] at hread
      exact ⟨'\\', 'u' :: written, hunits.trans hwritten, rtfReader_of_unit hread⟩

theorem readRtf_convert (text : Text) : readRtf (Medium.rtf.convert text) = mergeClosings text := by
  rw [readRtf, recognizes_rtfReader.read_convert, List.flatMap_map]
  rfl

-- A character written as a pair of negative numbers, next to a backslash of the text.
example : Medium.rtf.convert ['😀', '\\', 'u'] = "\\u-10179?\\u-8704?\\\\u".toList ∧
    readRtf "\\u-10179?\\u-8704?\\\\u".toList = ['😀', '\\', 'u'] := by
  decide +kernel

end Reading

section Ascii

theorem isAscii_of_isDigit {c : Char} (h : isDigit c = true) : c.toNat < 0x80 := by
  simp only [isDigit, Bool.and_eq_true, decide_eq_true_eq, Char.le_def, UInt32.le_iff_toNat_le] at h
  have hnine : '9'.val.toNat = 57 := rfl
  have hval : c.toNat = c.val.toNat := rfl
  omega

theorem isAscii_of_mem_rtfUnit {unit : Nat} {c : Char} (h : c ∈ Medium.rtfUnit unit) :
    c.toNat < 0x80 := by
  obtain ⟨number, hwritten, hnumber⟩ := exists_rtfUnit_eq unit
  simp only [hwritten, List.mem_cons, List.mem_append, List.not_mem_nil, or_false] at h
  rcases h with rfl | rfl | hmem | rfl
  · decide
  · decide
  · rcases hnumber c hmem with rfl | hdigit
    · decide
    · exact isAscii_of_isDigit hdigit
  · decide

theorem isAscii_of_mem_write {piece : Piece} {c : Char} (h : c ∈ Medium.rtf.write piece) :
    c.toNat < 0x80 := by
  cases piece with
  | dash =>
    have hall : Medium.rtf.ndash.all (fun c => c.toNat < 0x80) = true := by decide
    simpa using List.all_eq_true.1 hall c h
  | tagged marker =>
    have hall : ∀ marker ∈ Marker.all,
        (Medium.rtf.write (.tagged marker)).all (fun c => c.toNat < 0x80) = true := by decide
    simpa using List.all_eq_true.1 (hall marker marker.mem_all) c h
  | char found =>
    have hmem : c ∈ Medium.rtfEscape found := h
    rcases rtfEscape_cases found with ⟨hmeant, hescape⟩ | ⟨-, hascii, hself⟩ | hunits
    · rw [hescape] at hmem
      rcases List.mem_pair.1 hmem with rfl | rfl
      · decide
      · rcases hmeant with rfl | rfl | rfl <;> decide
    · rw [hself, List.mem_singleton] at hmem
      rwa [hmem]
    · rw [hunits] at hmem
      obtain ⟨unit, -, hunit⟩ := List.mem_flatMap.1 hmem
      exact isAscii_of_mem_rtfUnit hunit

theorem isAscii_of_mem_convert {text : Text} {c : Char} (h : c ∈ Medium.rtf.convert text) :
    c.toNat < 0x80 := by
  obtain ⟨piece, -, hpiece⟩ := List.mem_flatMap.1 h
  exact isAscii_of_mem_write hpiece

end Ascii

section Braces

theorem bareBraces_cons {c : Char} (rest : Text) (h : c ≠ '\\') :
    bareBraces (c :: rest) =
      if c = '\x7b' || c = '\x7d' then c :: bareBraces rest else bareBraces rest := by
  rw [bareBraces]
  exact fun _ _ same _ => h same

theorem bareBraces_append_of_forall {written : Text} (rest : Text)
    (h : ∀ c ∈ written, c ≠ '\\' ∧ c ≠ '\x7b' ∧ c ≠ '\x7d') :
    bareBraces (written ++ rest) = bareBraces rest := by
  induction written with
  | nil => rfl
  | cons c written ih =>
    rw [List.forall_mem_cons] at h
    obtain ⟨⟨hbackslash, hopening, hclosing⟩, hwritten⟩ := h
    have hbare : (decide (c = '\x7b') || decide (c = '\x7d')) = false := by
      simp [hopening, hclosing]
    rw [List.cons_append, bareBraces_cons _ hbackslash, hbare, if_neg Bool.false_ne_true,
      ih hwritten]

theorem bareBraces_rtfUnit_append (unit : Nat) (rest : Text) :
    bareBraces (Medium.rtfUnit unit ++ rest) = bareBraces rest := by
  obtain ⟨number, hwritten, hnumber⟩ := exists_rtfUnit_eq unit
  have hplain : ∀ c ∈ number ++ ['?'], c ≠ '\\' ∧ c ≠ '\x7b' ∧ c ≠ '\x7d' := by
    intro c hmem
    rcases List.mem_append.1 hmem with hmem | hmem
    · refine ⟨?_, ?_, ?_⟩ <;> rintro rfl <;> exact absurd (hnumber _ hmem) (by decide)
    · rw [List.mem_singleton.1 hmem]
      decide
  rw [hwritten, List.cons_append, List.cons_append, bareBraces,
    bareBraces_append_of_forall _ hplain]

-- The braces that are written for a piece.
def Piece.braces (piece : Piece) : Text :=
  (piece.marker?.map Marker.brace).toList

theorem bareBraces_write_append (piece : Piece) (rest : Text) :
    bareBraces (Medium.rtf.write piece ++ rest) = piece.braces ++ bareBraces rest := by
  cases piece with
  | dash => rfl
  | tagged marker =>
    obtain ⟨tag, closing⟩ := marker
    cases closing with
    | true => rfl
    | false => cases tag <;> rfl
  | char c =>
    have hwrite : Medium.rtf.write (.char c) = Medium.rtfEscape c := rfl
    have hbraces : (Piece.char c).braces = [] := rfl
    rw [hwrite, hbraces, List.nil_append]
    rcases rtfEscape_cases c with ⟨-, hescape⟩ | ⟨hplain, -, hself⟩ | hunits
    · rw [hescape]
      rfl
    · rw [hself]
      exact bareBraces_append_of_forall rest (by simpa using hplain)
    · rw [hunits]
      induction Medium.units c with
      | nil => rfl
      | cons unit units ih =>
        rw [List.flatMap_cons, List.append_assoc, bareBraces_rtfUnit_append, ih]

-- One brace for each marker.
theorem bareBraces_convert (text : Text) :
    bareBraces (Medium.rtf.convert text) = (markers text).map Marker.brace := by
  rw [Medium.convert, markers]
  induction pieces text with
  | nil => rfl
  | cons piece rest ih =>
    rw [List.flatMap_cons, bareBraces_write_append, ih, Piece.braces]
    cases h : piece.marker? with
    | none => rw [List.filterMap_cons_none h]; rfl
    | some marker => rw [List.filterMap_cons_some h]; rfl

end Braces

-- RTF closes every tag in the same way.
theorem write_merged (piece : Piece) :
    Medium.rtf.write piece.merged = Medium.rtf.write piece := by
  cases piece with
  | dash => rfl
  | tagged marker =>
    obtain ⟨tag, closing⟩ := marker
    cases closing <;> rfl
  | char c => rfl

theorem convert_mergeClosings (text : Text) :
    Medium.rtf.convert (mergeClosings text) = Medium.rtf.convert text := by
  rw [Medium.convert, Medium.convert, pieces_mergeClosings, List.flatMap_map]
  exact List.flatMap_congr fun piece _ => write_merged piece

-- RTF is ASCII with one brace for each marker, and can be read back; only which tag a
-- brace closes is lost.
theorem export_rtf_lossless :
    (∀ text, ∀ c ∈ Format.rtf.export text, c.toNat < 0x80) ∧
      (∀ text, bareBraces (Format.rtf.export text) = (markers text).map Marker.brace) ∧
      (∀ text, readRtf (Format.rtf.export text) = mergeClosings text) ∧
      ∀ left right, Format.rtf.export left = Format.rtf.export right ↔
        mergeClosings left = mergeClosings right := by
  refine ⟨fun _ _ => isAscii_of_mem_convert, bareBraces_convert, readRtf_convert, ?_⟩
  intro left right
  constructor
  · intro h
    rw [← readRtf_convert, ← readRtf_convert]
    exact congrArg readRtf h
  · intro h
    have hexport := congrArg Medium.rtf.convert h
    rwa [convert_mergeClosings, convert_mergeClosings] at hexport

end Referencing.Markup
