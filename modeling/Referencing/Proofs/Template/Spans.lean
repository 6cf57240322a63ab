import Mathlib.Data.List.Chain
import Referencing.Proofs.Template.Scanner

namespace Referencing.Template

open Text

def TokenKind.isText : TokenKind → Bool
  | .text _ => true
  | _ => false

-- What a token spells out. A quotation may lack its second tick at the end of a text.
def TokenKind.Spells (kind : TokenKind) (atEnd : Prop) (written : Text) : Prop :=
  match kind with
  | .text run => written = run
  | .escaped body => written = tick :: body ++ [tick] ∨ atEnd ∧ written = tick :: body
  | .dependent primary none => written = '%' :: primary ++ ['%']
  | .dependent primary (some alternative) =>
    written = '%' :: primary ++ '%' :: alternative ++ ['%']
  | .plural one many => written = '^' :: one ++ '^' :: many ++ ['^']
  | .unterminated marker => written = [marker]

-- Tokens whose bytes cut a text.
structure Lossless (scope : Scope) (text : Text) (tokens : List Token) : Prop where
  -- The ranges are not empty and follow each other from the beginning of the text to
  -- its end.
  nonEmpty : ∀ token ∈ tokens, token.start < token.stop
  first : ∀ token ∈ tokens.head?, token.start = 0
  next : tokens.IsChain fun left right => left.stop = right.start
  last : ∀ token ∈ tokens.getLast?, token.stop = size text
  covered : tokens = [] → text = []
  -- Each begins and ends between two characters and spells out what stands there. Only the
  -- last token can be a quotation without an end.
  spelled : ∀ token ∈ tokens, ∃ written,
    slice? token.start token.stop text = some written ∧
      token.kind.Spells (tokens.getLast? = some token ∧ token.stop = size text) written
  plain : ∀ token ∈ tokens, ∀ run, token.kind = .text run →
    tick ∉ run ∧ '^' ∉ run ∧ (scope = .affix → '%' ∉ run)
  apart : tokens.IsChain fun left right =>
    ¬(left.kind.isText = true ∧ right.kind.isText = true)
  -- In a whole segment a percent sign is text.
  segment : scope = .segment → ∀ token ∈ tokens,
    token.kind ≠ .unterminated '%' ∧
      ∀ primary alternative, token.kind ≠ .dependent primary alternative
  unterminated : ∀ token ∈ tokens, ∀ marker, token.kind = .unterminated marker →
    marker = '^' ∨ marker = '%'
  percents : (tokens.map (·.kind)).count (.unterminated '%') ≤ 1
  carets : (tokens.map (·.kind)).count (.unterminated '^') ≤ 2

section Ranges

variable {start : Nat} {lexemes : List Lexeme} {token : Token}

theorem map_kind_tokensFrom (start : Nat) (lexemes : List Lexeme) :
    (tokensFrom start lexemes).map (·.kind) = lexemes.map Lexeme.kind := by
  induction lexemes generalizing start with
  | nil => rfl
  | cons lexeme rest ih => rw [tokensFrom, List.map_cons, List.map_cons, ih, Lexeme.token]

theorem head?_tokensFrom (h : token ∈ (tokensFrom start lexemes).head?) : token.start = start := by
  cases lexemes with
  | nil => simp [tokensFrom] at h
  | cons lexeme rest =>
    obtain rfl := Option.some.inj h
    rfl

theorem isChain_tokensFrom (start : Nat) (lexemes : List Lexeme) :
    (tokensFrom start lexemes).IsChain fun left right => left.stop = right.start := by
  induction lexemes generalizing start with
  | nil => exact .nil
  | cons lexeme rest ih =>
    exact List.isChain_cons.2 ⟨fun next hnext => (head?_tokensFrom hnext).symm, ih _⟩

theorem getLast?_tokensFrom (h : token ∈ (tokensFrom start lexemes).getLast?) :
    token.stop = start + size (lexemes.flatMap Lexeme.spelling) := by
  induction lexemes generalizing start with
  | nil => simp [tokensFrom] at h
  | cons lexeme rest ih =>
    rw [List.flatMap_cons, size_append, ← Nat.add_assoc]
    cases rest with
    | nil =>
      obtain rfl : lexeme.token start = token := Option.some.inj h
      simp [Lexeme.token]
    | cons other later => exact ih h

end Ranges

section Reading

variable {scope : Scope} {lexemes : List Lexeme}

theorem Lexeme.FitsIn.spelling_ne_nil {lexeme : Lexeme} (h : lexeme.FitsIn scope) :
    lexeme.spelling ≠ [] := by
  cases lexeme with
  | text run => exact h.1
  | dependent primary alternative => cases alternative <;> simp [Lexeme.spelling]
  | escaped | plural | unterminated => simp [Lexeme.spelling]

theorem Lexeme.spells (lexeme : Lexeme) (atEnd : Prop)
    (h : ∀ body, lexeme = .escaped body false → atEnd) :
    lexeme.kind.Spells atEnd lexeme.spelling := by
  cases lexeme with
  | text run => rfl
  | escaped body closed =>
    cases closed with
    | true => exact .inl rfl
    | false => exact .inr ⟨h body rfl, List.append_nil _⟩
  | dependent primary alternative => cases alternative <;> rfl
  | plural one many => rfl
  | unterminated marker => rfl

theorem Readable.of_append {earlier later : List Lexeme} (h : Readable scope (earlier ++ later)) :
    Readable scope later := by
  induction earlier with
  | nil => exact h
  | cons lexeme earlier ih => cases h with | cons _ _ readable => exact ih readable

theorem Readable.eq_nil (h : Readable scope lexemes)
    (hnil : lexemes.flatMap Lexeme.spelling = []) : lexemes = [] := by
  rw [← lexemesOf_flatMap_spelling h, hnil, lexemesOf]

-- Nothing follows a quotation without an end.
theorem Readable.eq_nil_of_unclosed {earlier later : List Lexeme} {body : Text}
    (h : Readable scope (earlier ++ .escaped body false :: later)) : later = [] := by
  cases h.of_append with
  | cons _ precedes readable => exact readable.eq_nil (precedes rfl)

-- A text ends where a marker or a quotation begins.
theorem Readable.apart (h : Readable scope lexemes) :
    lexemes.IsChain fun left right => ¬(left.kind.isText = true ∧ right.kind.isText = true) := by
  induction h with
  | nil => exact .nil
  | @cons lexeme rest fits precedes readable ih =>
    refine List.isChain_cons.2 ⟨fun next hnext => ?_, ih⟩
    rintro ⟨hlexeme, htext⟩
    obtain ⟨later, rfl⟩ := List.head?_eq_some_iff.1 (Option.mem_def.1 hnext)
    cases lexeme with
    | text run =>
      cases next with
      | text other =>
        obtain ⟨hne, hother⟩ := readable.fitsIn _ List.mem_cons_self
        obtain ⟨c, other, rfl⟩ := List.exists_cons_of_ne_nil hne
        have hopens := precedes c rfl
        rw [hother c List.mem_cons_self] at hopens
        contradiction
      | escaped | dependent | plural | unterminated => contradiction
    | escaped | dependent | plural | unterminated => contradiction

theorem count_unterminated_le (marker : Char) (lexemes : List Lexeme) :
    (lexemes.map Lexeme.kind).count (.unterminated marker) ≤
      (lexemes.flatMap Lexeme.spelling).count marker := by
  induction lexemes with
  | nil => simp
  | cons lexeme rest ih =>
    rw [List.flatMap_cons, List.count_append, List.map_cons]
    by_cases h : lexeme.kind = .unterminated marker
    · obtain rfl := kind_eq_unterminated_iff.1 h
      simp only [Lexeme.kind, List.count_cons_self, Lexeme.spelling, List.count_nil]
      omega
    · rw [List.count_cons_of_ne h]
      omega

-- After the first marker without partners only those characters are left that are too
-- few to be partners.
theorem Readable.count_unterminated_le (h : Readable scope lexemes) (marker : Char) :
    (lexemes.map Lexeme.kind).count (.unterminated marker) ≤
      (if marker = '^' then 1 else 0) + 1 := by
  induction h with
  | nil => simp
  | @cons lexeme rest _ precedes _ ih =>
    rw [List.map_cons]
    by_cases h : lexeme.kind = .unterminated marker
    · obtain rfl := kind_eq_unterminated_iff.1 h
      rw [Lexeme.kind, List.count_cons_self]
      exact Nat.succ_le_succ ((Template.count_unterminated_le marker rest).trans precedes)
    · rwa [List.count_cons_of_ne h]

end Reading

section Cutting

variable {scope : Scope} {lexemes : List Lexeme} (h : Readable scope lexemes) {token : Token}

include h

theorem Readable.exists_lexeme (htoken : token ∈ tokensFrom 0 lexemes) :
    ∃ lexeme : Lexeme, lexeme.FitsIn scope ∧ lexeme.kind = token.kind ∧
      token.stop = token.start + size lexeme.spelling := by
  obtain ⟨earlier, lexeme, later, rfl, rfl⟩ := exists_of_mem_tokensFrom htoken
  exact ⟨lexeme, h.fitsIn lexeme (by simp), rfl, rfl⟩

theorem Readable.start_lt_stop (htoken : token ∈ tokensFrom 0 lexemes) :
    token.start < token.stop := by
  obtain ⟨lexeme, hfits, -, hstop⟩ := h.exists_lexeme htoken
  have hpos := size_pos_of_ne_nil hfits.spelling_ne_nil
  omega

theorem Readable.spelled (htoken : token ∈ tokensFrom 0 lexemes) :
    ∃ written, slice? token.start token.stop (lexemes.flatMap Lexeme.spelling) = some written ∧
      token.kind.Spells ((tokensFrom 0 lexemes).getLast? = some token ∧
        token.stop = size (lexemes.flatMap Lexeme.spelling)) written := by
  obtain ⟨earlier, lexeme, later, rfl, rfl⟩ := exists_of_mem_tokensFrom htoken
  rw [Nat.zero_add]
  refine ⟨lexeme.spelling, ?_, lexeme.spells _ ?_⟩
  · have hslice := slice?_size (earlier.flatMap Lexeme.spelling) lexeme.spelling
      (later.flatMap Lexeme.spelling)
    rwa [size_append, List.append_assoc, ← List.flatMap_cons, ← List.flatMap_append] at hslice
  · rintro body rfl
    obtain rfl := h.eq_nil_of_unclosed
    have hlast : (tokensFrom 0 (earlier ++ [.escaped body false])).getLast? =
        some (Lexeme.token (size (earlier.flatMap Lexeme.spelling)) (.escaped body false)) := by
      rw [tokensFrom_append, Nat.zero_add]
      exact List.getLast?_concat
    have hstop := getLast?_tokensFrom hlast
    rw [Nat.zero_add] at hstop
    exact ⟨hlast, hstop⟩

theorem Readable.plain (htoken : token ∈ tokensFrom 0 lexemes) {run : Text}
    (hkind : token.kind = .text run) :
    tick ∉ run ∧ '^' ∉ run ∧ (scope = .affix → '%' ∉ run) := by
  obtain ⟨lexeme, hfits, hsame, -⟩ := h.exists_lexeme htoken
  obtain rfl := kind_eq_text_iff.1 (hsame.trans hkind)
  have hclosed : ∀ c ∈ run, c ≠ tick ∧ c ≠ '^' ∧ (scope = .affix → c ≠ '%') :=
    fun c hc => opens_eq_false_iff.1 (hfits.2 c hc)
  exact ⟨fun hc => (hclosed _ hc).1 rfl, fun hc => (hclosed _ hc).2.1 rfl,
    fun hscope hc => (hclosed _ hc).2.2 hscope rfl⟩

theorem Readable.unterminated (htoken : token ∈ tokensFrom 0 lexemes) {marker : Char}
    (hkind : token.kind = .unterminated marker) :
    marker = '^' ∨ marker = '%' ∧ scope = .affix := by
  obtain ⟨lexeme, hfits, hsame, -⟩ := h.exists_lexeme htoken
  obtain rfl := kind_eq_unterminated_iff.1 (hsame.trans hkind)
  exact hfits

theorem Readable.scope_of_dependent (htoken : token ∈ tokensFrom 0 lexemes) {primary : Text}
    {alternative : Option Text} (hkind : token.kind = .dependent primary alternative) :
    scope = .affix := by
  obtain ⟨lexeme, hfits, hsame, -⟩ := h.exists_lexeme htoken
  obtain rfl := kind_eq_dependent_iff.1 (hsame.trans hkind)
  exact hfits.1

theorem Readable.lossless :
    Lossless scope (lexemes.flatMap Lexeme.spelling) (tokensFrom 0 lexemes) := by
  constructor
  case nonEmpty => exact fun token htoken => h.start_lt_stop htoken
  case first => exact fun token => head?_tokensFrom
  case next => exact isChain_tokensFrom 0 lexemes
  case last =>
    intro token htoken
    rw [getLast?_tokensFrom htoken, Nat.zero_add]
  case covered =>
    intro hnil
    have hkinds := map_kind_tokensFrom 0 lexemes
    rw [hnil, List.map_nil] at hkinds
    rw [List.map_eq_nil_iff.1 hkinds.symm, List.flatMap_nil]
  case spelled => exact fun token htoken => h.spelled htoken
  case plain => exact fun token htoken run hkind => h.plain htoken hkind
  case apart =>
    have hchain : (lexemes.map Lexeme.kind).IsChain fun left right =>
        ¬(left.isText = true ∧ right.isText = true) := (List.isChain_map _).2 h.apart
    rw [← map_kind_tokensFrom 0 lexemes] at hchain
    exact (List.isChain_map _).1 hchain
  case segment =>
    rintro rfl token htoken
    refine ⟨fun hkind => ?_, fun primary alternative hkind => ?_⟩
    · rcases h.unterminated htoken hkind with hcaret | ⟨-, hscope⟩
      · exact absurd hcaret (by decide)
      · contradiction
    · exact absurd (h.scope_of_dependent htoken hkind) (by decide)
  case unterminated =>
    exact fun token htoken marker hkind => (h.unterminated htoken hkind).imp_right And.left
  case percents => rw [map_kind_tokensFrom]; exact h.count_unterminated_le '%'
  case carets => rw [map_kind_tokensFrom]; exact h.count_unterminated_le '^'

end Cutting

-- Every text is read to its end, and the cursors cut it into what the tokens spell out.
theorem lossless_lex (scope : Scope) (text : Text) :
    ∃ tokens, lex? scope text = some tokens ∧ lex scope text = tokens ∧
      Lossless scope text tokens := by
  refine ⟨_, lex?_eq scope text, lex_eq scope text, ?_⟩
  have hlossless := (readable_lexemesOf scope text).lossless
  rwa [flatMap_spelling_lexemesOf] at hlossless

end Referencing.Template
