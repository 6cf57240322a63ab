import Referencing.Proofs.Template.Lexing

namespace Referencing.Template

open Text

-- A lexeme that begins at a byte, as a token.
def Lexeme.token (start : Nat) (lexeme : Lexeme) : Token where
  kind := lexeme.kind
  start := start
  stop := start + size lexeme.spelling

-- Lexemes that follow each other from a byte on, as tokens.
def tokensFrom (start : Nat) : List Lexeme → List Token
  | [] => []
  | lexeme :: rest => lexeme.token start :: tokensFrom (start + size lexeme.spelling) rest

theorem tokensFrom_append (start : Nat) (left right : List Lexeme) :
    tokensFrom start (left ++ right) =
      tokensFrom start left ++ tokensFrom (start + size (left.flatMap Lexeme.spelling)) right := by
  induction left generalizing start with
  | nil => rfl
  | cons lexeme rest ih =>
    rw [List.cons_append, tokensFrom, ih, tokensFrom, List.flatMap_cons, size_append,
      Nat.add_assoc, List.cons_append]

-- A token begins after what the lexemes before it spell out.
theorem exists_of_mem_tokensFrom {start : Nat} {lexemes : List Lexeme} {token : Token}
    (h : token ∈ tokensFrom start lexemes) :
    ∃ earlier lexeme later, lexemes = earlier ++ lexeme :: later ∧
      token = lexeme.token (start + size (earlier.flatMap Lexeme.spelling)) := by
  induction lexemes generalizing start with
  | nil => simp [tokensFrom] at h
  | cons head rest ih =>
    rcases List.mem_cons.1 h with rfl | h
    · exact ⟨[], head, rest, rfl, rfl⟩
    · obtain ⟨earlier, lexeme, later, rfl, rfl⟩ := ih h
      exact ⟨head :: earlier, lexeme, later, rfl, by simp [Nat.add_assoc]⟩

section Opening

variable {mark : Char}

theorem behind?_mark (hmark : mark.utf8Size = 1) (before rest : Text) :
    behind? (size before + 1) (before ++ mark :: rest) = some rest := by
  have hbehind := behind?_size (before ++ [mark]) rest
  rwa [size_append, size_cons, size_nil, hmark, List.append_assoc, List.singleton_append]
    at hbehind

theorem slice?_mark (hmark : mark.utf8Size = 1) (before between rest : Text) :
    slice? (size before + 1) (size before + 1 + size between)
      (before ++ mark :: (between ++ rest)) = some between := by
  have hslice := slice?_size (before ++ [mark]) between rest
  rwa [size_append (before ++ [mark]), size_append, size_cons, size_nil, hmark, List.append_assoc,
    List.append_assoc, List.singleton_append] at hslice

-- A text behind a mark, with what was before the mark.
theorem size_append_mark (hmark : mark.utf8Size = 1) (before between : Text) :
    size (before ++ mark :: between) = size before + 1 + size between := by
  rw [size_append, size_cons, hmark, Nat.add_assoc]

theorem behind?_second_mark (hmark : mark.utf8Size = 1) (before between rest : Text) :
    behind? (size before + 1 + size between + 1) (before ++ mark :: (between ++ mark :: rest)) =
      some rest := by
  have hbehind := behind?_mark hmark (before ++ mark :: between) rest
  rwa [size_append_mark hmark, List.append_assoc, List.cons_append] at hbehind

theorem slice?_second_mark (hmark : mark.utf8Size = 1) (before between last rest : Text) :
    slice? (size before + 1 + size between + 1) (size before + 1 + size between + 1 + size last)
      (before ++ mark :: (between ++ mark :: (last ++ rest))) = some last := by
  have hslice := slice?_mark hmark (before ++ mark :: between) last rest
  rwa [size_append_mark hmark, List.append_assoc, List.cons_append] at hslice

theorem openedByTick?_eq (before rest : Text) :
    openedByTick? (before ++ tick :: rest) (size before) =
      some ((openedByTick rest).1.token (size before)) := by
  have hmark : tick.utf8Size = 1 := by decide
  rw [openedByTick?, behind?_mark hmark, Option.bind_some, offset?, openedByTick]
  cases hcut : cut? tick rest with
  | none =>
    simp only [Option.map_none, Lexeme.token, Lexeme.kind, Lexeme.spelling, size_append,
      size_cons, hmark]
    simp
  | some cut =>
    obtain ⟨quoted, after⟩ := cut
    obtain ⟨rfl, -⟩ := eq_of_cut? hcut
    simp only [Option.map_some, slice?_mark hmark, Lexeme.token, Lexeme.kind, Lexeme.spelling,
      if_true, size_cons, size_append, size_nil, hmark]
    simp [Nat.add_assoc, Nat.add_comm, Nat.add_left_comm]

theorem openedByCaret?_eq (before rest : Text) :
    openedByCaret? (before ++ '^' :: rest) (size before) =
      some ((openedByCaret rest).1.token (size before)) := by
  have hmark : '^'.utf8Size = 1 := by decide
  have halone : (⟨.unterminated '^', size before, size before + 1⟩ : Token) =
      (Lexeme.unterminated '^').token (size before) := rfl
  rw [openedByCaret?, behind?_mark hmark, Option.bind_some, offset?, openedByCaret]
  cases hone : cut? '^' rest with
  | none => simp only [Option.map_none, halone]
  | some cut =>
    obtain ⟨one, middle⟩ := cut
    obtain ⟨rfl, -⟩ := eq_of_cut? hone
    simp only [Option.map_some, behind?_second_mark hmark, Option.bind_some, offset?]
    cases hmany : cut? '^' middle with
    | none => simp only [Option.map_none, halone]
    | some cut =>
      obtain ⟨many, after⟩ := cut
      obtain ⟨rfl, -⟩ := eq_of_cut? hmany
      simp only [Option.map_some, slice?_mark hmark, slice?_second_mark hmark, Option.bind_some,
        Lexeme.token, Lexeme.kind, Lexeme.spelling, size_cons, size_append, size_nil, hmark]
      simp [Nat.add_assoc, Nat.add_comm, Nat.add_left_comm]

theorem openedByPercent?_eq (before rest : Text) :
    openedByPercent? (before ++ '%' :: rest) (size before) =
      some ((openedByPercent rest).1.token (size before)) := by
  have hmark : '%'.utf8Size = 1 := by decide
  rw [openedByPercent?, behind?_mark hmark, Option.bind_some, offset?, openedByPercent]
  cases hprimary : cut? '%' rest with
  | none => rfl
  | some cut =>
    obtain ⟨primary, middle⟩ := cut
    obtain ⟨rfl, -⟩ := eq_of_cut? hprimary
    simp only [Option.map_some, slice?_mark hmark, behind?_second_mark hmark, Option.bind_some,
      offset?]
    cases halternative : cut? '%' middle with
    | none =>
      simp only [Option.map_none, Lexeme.token, Lexeme.kind, Lexeme.spelling, size_cons,
        size_append, size_nil, hmark]
      simp [Nat.add_assoc, Nat.add_comm, Nat.add_left_comm]
    | some cut =>
      obtain ⟨alternative, after⟩ := cut
      obtain ⟨rfl, -⟩ := eq_of_cut? halternative
      simp only [Option.map_some, slice?_second_mark hmark, Lexeme.token, Lexeme.kind,
        Lexeme.spelling, size_cons, size_append, size_nil, hmark]
      simp [Nat.add_assoc, Nat.add_comm, Nat.add_left_comm]

theorem opened?_eq {scope : Scope} {c : Char} (hopens : scope.opens c = true)
    (before rest : Text) :
    opened? c (before ++ c :: rest) (size before) =
      some ((opened c rest).1.token (size before)) := by
  rcases opens_cases hopens with rfl | rfl | ⟨rfl, rfl⟩
  · exact openedByTick?_eq before rest
  · exact openedByCaret?_eq before rest
  · exact openedByPercent?_eq before rest

end Opening

section Running

variable {scope : Scope}

-- Plain text that is no token yet.
def pending (run : Text) : List Lexeme :=
  if run = [] then [] else [.text run]

@[simp] theorem spelling_pending (run : Text) : (pending run).flatMap Lexeme.spelling = run := by
  by_cases h : run = [] <;> simp [pending, h, Lexeme.spelling]

theorem lexemesOf_pending {run : Text} (h : ∀ c ∈ run, scope.opens c = false) :
    lexemesOf scope run = pending run := by
  by_cases hempty : run = []
  · simp [hempty, pending, lexemesOf]
  · have hlast : (Lexeme.text run).CanPrecede scope [] := by simp [Lexeme.CanPrecede]
    simpa [pending, hempty, lexemesOf] using lexemesOf_text ⟨hempty, h⟩ hlast

-- Where a marker or a quotation begins, the plain text before it ends.
theorem lexemesOf_opened {run : Text} (h : ∀ c ∈ run, scope.opens c = false) {c : Char}
    (hopens : scope.opens c = true) (rest : Text) :
    lexemesOf scope (run ++ c :: rest) =
      pending run ++ (opened c rest).1 :: lexemesOf scope (opened c rest).2 := by
  have hopened : lexemesOf scope (c :: rest) =
      (opened c rest).1 :: lexemesOf scope (opened c rest).2 := lexemesOf_of_opened hopens rfl
  by_cases hempty : run = []
  · simpa [hempty, pending] using hopened
  · rw [lexemesOf_text ⟨hempty, h⟩ (by simpa [Lexeme.CanPrecede] using hopens), hopened, pending,
      if_neg hempty, List.singleton_append]

namespace Lexing

-- A scanner that has made tokens of all it has passed over, but for some plain text.
def behind (done run : Text) (tokens : List Token) : Lexing where
  tokens := tokens
  textStart := if run = [] then none else some (size done)
  position := size (done ++ run)

variable (done run : Text) (tokens : List Token)

theorem flush?_behind (rest : Text) :
    (behind done run tokens).flush? (size (done ++ run)) (done ++ run ++ rest) =
      some { behind (done ++ run) [] (tokens ++ tokensFrom (size done) (pending run)) with
        position := size (done ++ run) } := by
  by_cases hempty : run = []
  · simp [flush?, behind, hempty, pending, tokensFrom]
  · have hlt : size done < size (done ++ run) := by
      have hpos := size_pos_of_ne_nil hempty
      rw [size_append]
      omega
    simp only [flush?, behind, hempty, if_false, hlt, if_true, slice?_size, Option.map_some,
      pending, tokensFrom, Lexeme.token, Lexeme.kind, Lexeme.spelling, ← size_append,
      List.append_nil]

theorem step?_char {c : Char} (h : scope.opens c = false) (text : Text) :
    (behind done run tokens).step? scope text c = some (behind done (run ++ [c]) tokens) := by
  by_cases hempty : run = [] <;>
    simp [step?, behind, h, hempty, Nat.add_assoc]

theorem step?_opened {c : Char} (hopens : scope.opens c = true) (rest : Text) :
    (behind done run tokens).step? scope (done ++ run ++ c :: rest) c =
      some (behind (done ++ run ++ (opened c rest).1.spelling) []
        (tokens ++ tokensFrom (size done) (pending run ++ [(opened c rest).1]))) := by
  have hposition : (behind done run tokens).position = size (done ++ run) := rfl
  rw [step?, if_pos hopens, hposition, flush?_behind, Option.bind_some, opened?_eq hopens,
    Option.map_some, tokensFrom_append, spelling_pending]
  simp [push, behind, tokensFrom, Lexeme.token, Nat.add_assoc]

theorem run?_of_step? {text rest : Text} {c : Char} {lexing next : Lexing}
    (hrest : behind? lexing.position text = some (c :: rest))
    (h : lexing.step? scope text c = some next) :
    lexing.run? scope text = next.run? scope text := by
  rw [run?]
  split
  · next hnone =>
    rw [hrest] at hnone
    contradiction
  · next hend =>
    rw [hrest, Option.some.injEq] at hend
    contradiction
  · next found others hfound =>
    rw [hrest, Option.some.injEq, List.cons.injEq] at hfound
    obtain ⟨rfl, -⟩ := hfound
    split
    · next hnone =>
      rw [h] at hnone
      contradiction
    · next found hfound =>
      rw [h, Option.some.injEq] at hfound
      rw [hfound]

-- From wherever a scanner stands it goes on as if the text began there, but for the plain
-- text that is no token yet.
theorem run?_behind (done : Text) {run : Text} (tokens : List Token)
    (hrun : ∀ c ∈ run, scope.opens c = false) (rest : Text) :
    ((behind done run tokens).run? scope (done ++ run ++ rest)).map (·.tokens) =
      some (tokens ++ tokensFrom (size done) (lexemesOf scope (run ++ rest))) := by
  have hcursor : behind? (behind done run tokens).position (done ++ run ++ rest) = some rest :=
    behind?_size (done ++ run) rest
  match rest with
  | [] =>
    have hend : (behind done run tokens).run? scope (done ++ run ++ []) =
        (behind done run tokens).flush? (size (done ++ run)) (done ++ run ++ []) := by
      rw [run?]
      split <;> simp_all
    rw [hend, flush?_behind, Option.map_some, List.append_nil run, lexemesOf_pending hrun]
    rfl
  | c :: rest =>
    cases hopens : scope.opens c with
    | false =>
      have hnext : ∀ other ∈ run ++ [c], scope.opens other = false :=
        List.forall_mem_append.2 ⟨hrun, List.forall_mem_singleton.2 hopens⟩
      have hrest := run?_behind done tokens hnext rest
      rw [run?_of_step? hcursor (step?_char done run tokens hopens _)]
      simpa using hrest
    | true =>
      have hspelling := opened_spelling hopens rest
      have hrest := run?_behind (done ++ run ++ (opened c rest).1.spelling)
        (tokens ++ tokensFrom (size done) (pending run ++ [(opened c rest).1]))
        (List.forall_mem_nil _) (opened c rest).2
      rw [run?_of_step? hcursor (step?_opened done run tokens hopens rest),
        lexemesOf_opened hrun hopens]
      rw [List.append_nil, List.append_assoc (done ++ run), hspelling] at hrest
      rw [hrest, tokensFrom_append, tokensFrom_append]
      simp [tokensFrom, Nat.add_assoc]
termination_by rest.length
decreasing_by
  · simp
  · exact Nat.lt_succ_of_le (length_opened_le c rest)

end Lexing

end Running

-- The scanner never stands inside a character, and comes upon the lexemes of the text.
theorem lex?_eq (scope : Scope) (text : Text) :
    lex? scope text = some (tokensFrom 0 (lexemesOf scope text)) := by
  have hempty : ∀ c ∈ ([] : Text), scope.opens c = false := List.forall_mem_nil _
  simpa [lex?, Lexing.behind] using Lexing.run?_behind [] [] hempty text

theorem lex_eq (scope : Scope) (text : Text) :
    lex scope text = tokensFrom 0 (lexemesOf scope text) := by
  rw [lex, lex?_eq, Option.getD_some]

end Referencing.Template
