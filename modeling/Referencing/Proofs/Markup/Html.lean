import Mathlib.Logic.Function.Basic
import Referencing.Proofs.Markup.Reading

namespace Referencing.Markup

open Text

-- The tags that open and close what is marked.
def htmlTags : List Text :=
  Marker.all.map fun marker => Medium.html.write (.tagged marker)

def htmlEntities : List Text :=
  ["&amp;", "&lt;", "&gt;", "&quot;", "&ndash;"].map String.toList

-- All that is written for anything but a character that stands for itself.
def htmlSymbols : List (Text × Piece) :=
  [("&amp;".toList, .char '&'), ("&lt;".toList, .char '<'), ("&gt;".toList, .char '>'),
    ("&quot;".toList, .char '"'), ("&ndash;".toList, .dash)] ++
  Marker.all.map fun marker => (Medium.html.write (.tagged marker), .tagged marker)

def htmlReader : Reader Piece :=
  .ofTable htmlSymbols fun c _ => (.char c, 0)

-- The text whose export is read.
def readHtml (text : Text) : Text :=
  (htmlReader.read text).flatMap Piece.spelling

-- Nothing in a text is taken for markup that is none: what begins a tag or an entity
-- does so, and what would end a tag or a value is in a tag.
structure HtmlSafe (text : Text) : Prop where
  angle : ∀ before after, text = before ++ '<' :: after → ∃ tag ∈ htmlTags, tag <+: '<' :: after
  ampersand : ∀ before after, text = before ++ '&' :: after →
    ∃ entity ∈ htmlEntities, entity <+: '&' :: after
  inside : ∀ before c after, text = before ++ c :: after → c = '>' ∨ c = '"' →
    ∃ tag ∈ htmlTags, ∃ stem tail, tag = stem ++ c :: tail ∧ stem <:+ before ∧ tail <+: after

section Writing

variable {piece : Piece} {c : Char} {stem tail : Text}

theorem write_tagged_mem_htmlTags (marker : Marker) :
    Medium.html.write (.tagged marker) ∈ htmlTags :=
  List.mem_map_of_mem marker.mem_all

-- A tag begins with its only angle of that kind, and has no ampersand.
theorem eq_nil_of_mem_htmlTags {tag : Text} (h : tag ∈ htmlTags)
    (hsplit : tag = stem ++ c :: tail) : (c = '<' → stem = []) ∧ c ≠ '&' := by
  have hall : ∀ tag ∈ htmlTags, '<' ∉ tag.tail ∧ '&' ∉ tag := by decide +kernel
  obtain ⟨hangle, hampersand⟩ := hall tag h
  constructor
  · rintro rfl
    cases stem with
    | nil => rfl
    | cons first stem => simp [hsplit] at hangle
  · rintro rfl
    simp [hsplit] at hampersand

-- Of the characters of an entity only the first has a meaning of its own.
theorem eq_nil_of_mem_htmlEntities {entity : Text} (h : entity ∈ htmlEntities)
    (hsplit : entity = stem ++ c :: tail) :
    (c = '&' → stem = []) ∧ c ≠ '<' ∧ c ≠ '>' ∧ c ≠ '"' := by
  have hall : ∀ entity ∈ htmlEntities,
      '&' ∉ entity.tail ∧ '<' ∉ entity ∧ '>' ∉ entity ∧ '"' ∉ entity := by decide +kernel
  obtain ⟨hampersand, hangle, hclosing, hquote⟩ := hall entity h
  have hmem : c ∈ entity := by simp [hsplit]
  refine ⟨?_, ?_, ?_, ?_⟩
  · rintro rfl
    cases stem with
    | nil => rfl
    | cons first stem => simp [hsplit] at hampersand
  · exact fun same => hangle (same ▸ hmem)
  · exact fun same => hclosing (same ▸ hmem)
  · exact fun same => hquote (same ▸ hmem)

-- The characters that mean something in HTML, and all others.
theorem htmlEscape_cases (c : Char) :
    (c = '&' ∨ c = '<' ∨ c = '>' ∨ c = '"') ∨
      c ≠ '<' ∧ c ≠ '&' ∧ c ≠ '>' ∧ c ≠ '"' ∧ Medium.htmlEscape c = [c] := by
  unfold Medium.htmlEscape
  split
  · exact .inl (.inl rfl)
  · exact .inl (.inr (.inl rfl))
  · exact .inl (.inr (.inr (.inl rfl)))
  · exact .inl (.inr (.inr (.inr rfl)))
  · next hamp hlt hgt hquot => exact .inr ⟨hlt, hamp, hgt, hquot, rfl⟩

-- A piece is written as a tag, as an entity, or as a character that means nothing
-- in HTML.
theorem write_html_cases (piece : Piece) :
    Medium.html.write piece ∈ htmlTags ∨ Medium.html.write piece ∈ htmlEntities ∨
      ∃ c, piece = .char c ∧ Medium.html.write piece = [c] ∧
        c ≠ '<' ∧ c ≠ '&' ∧ c ≠ '>' ∧ c ≠ '"' := by
  cases piece with
  | dash => exact .inr (.inl (by decide))
  | tagged marker => exact .inl (write_tagged_mem_htmlTags marker)
  | char c =>
    right
    rcases htmlEscape_cases c with hmeant | ⟨hlt, hamp, hgt, hquot, hself⟩
    · left
      rcases hmeant with rfl | rfl | rfl | rfl <;> decide
    · exact .inr ⟨c, rfl, hself, hlt, hamp, hgt, hquot⟩

end Writing

theorem htmlSafe_convert (text : Text) : HtmlSafe (Medium.html.convert text) := by
  constructor
  case angle =>
    intro before after h
    obtain ⟨piece, -, stem, tail, hwrite, -, htail⟩ := exists_piece_of_convert h
    rcases write_html_cases piece with htag | hentity | ⟨c, -, hchar, hne, -⟩
    · have hstem := (eq_nil_of_mem_htmlTags htag hwrite).1 rfl
      rw [hstem, List.nil_append] at hwrite
      exact ⟨_, htag, by rwa [hwrite, List.cons_prefix_cons, and_iff_right rfl]⟩
    · exact absurd rfl (eq_nil_of_mem_htmlEntities hentity hwrite).2.1
    · have hmem : '<' ∈ [c] := by rw [← hchar, hwrite]; simp
      exact absurd (List.mem_singleton.1 hmem).symm hne
  case ampersand =>
    intro before after h
    obtain ⟨piece, -, stem, tail, hwrite, -, htail⟩ := exists_piece_of_convert h
    rcases write_html_cases piece with htag | hentity | ⟨c, -, hchar, -, hne, -⟩
    · exact absurd rfl (eq_nil_of_mem_htmlTags htag hwrite).2
    · have hstem := (eq_nil_of_mem_htmlEntities hentity hwrite).1 rfl
      rw [hstem, List.nil_append] at hwrite
      exact ⟨_, hentity, by rwa [hwrite, List.cons_prefix_cons, and_iff_right rfl]⟩
    · have hmem : '&' ∈ [c] := by rw [← hchar, hwrite]; simp
      exact absurd (List.mem_singleton.1 hmem).symm hne
  case inside =>
    intro before c after h hc
    obtain ⟨piece, -, stem, tail, hwrite, hstem, htail⟩ := exists_piece_of_convert h
    rcases write_html_cases piece with htag | hentity | ⟨other, -, hchar, -, -, hgt, hquot⟩
    · exact ⟨_, htag, stem, tail, hwrite, hstem, htail⟩
    · obtain ⟨-, -, hgt, hquot⟩ := eq_nil_of_mem_htmlEntities hentity hwrite
      exact absurd hc (not_or.2 ⟨hgt, hquot⟩)
    · have hmem : c ∈ [other] := by rw [← hchar, hwrite]; simp
      rw [List.mem_singleton.1 hmem] at hc
      exact absurd hc (not_or.2 ⟨hgt, hquot⟩)

-- No symbol begins with a character that means nothing in HTML.
theorem htmlReader_of_ne {c : Char} (rest : Text) (hlt : c ≠ '<') (hamp : c ≠ '&') :
    htmlReader c rest = (.char c, 0) := by
  have hheads : ∀ entry ∈ htmlSymbols, entry.1.head? ∈ ['<', '&'].map some := by decide +kernel
  exact Reader.ofTable_of_not_mem rest hheads (by simp [hlt, hamp])

theorem recognizes_htmlReader : htmlReader.Recognizes Medium.html id := by
  intro piece rest
  cases piece with
  | dash => exact ⟨'&', "ndash;".toList, rfl, rfl⟩
  | tagged marker =>
    obtain ⟨tag, closing⟩ := marker
    cases tag <;> cases closing <;> exact ⟨'<', _, rfl, rfl⟩
  | char c =>
    rcases htmlEscape_cases c with hmeant | ⟨hlt, hamp, -, -, hself⟩
    · rcases hmeant with rfl | rfl | rfl | rfl <;> exact ⟨'&', _, rfl, rfl⟩
    · exact ⟨c, [], hself, htmlReader_of_ne rest hlt hamp⟩

theorem readHtml_convert (text : Text) : readHtml (Medium.html.convert text) = text := by
  rw [readHtml, recognizes_htmlReader.read_convert, List.map_id, flatMap_spelling_pieces]

-- What is exported as HTML has no markup but its own, and can be read back.
theorem export_html_lossless :
    (∀ text, HtmlSafe (Format.html.export text)) ∧
      (∀ text, readHtml (Format.html.export text) = text) ∧
      Function.Injective Format.html.export :=
  ⟨htmlSafe_convert, readHtml_convert, Function.LeftInverse.injective readHtml_convert⟩

end Referencing.Markup
