import Referencing.Proofs.Template.Lexemes

namespace Referencing.Template

open Text

-- Reading a text in lexemes loses nothing of it.
theorem flatMap_spelling_lexemesOf (scope : Scope) (text : Text) :
    (lexemesOf scope text).flatMap Lexeme.spelling = text := by
  fun_induction lexemesOf scope text with
  | case1 => rfl
  | case2 c rest hopens ih =>
    rw [List.flatMap_cons, ih]
    exact opened_spelling hopens rest
  | case3 c rest hopens ih =>
    rw [List.flatMap_cons, ih]
    simp [Lexeme.spelling]

theorem opens_eq_false_iff {scope : Scope} {c : Char} :
    scope.opens c = false ↔ c ≠ tick ∧ c ≠ '^' ∧ (scope = .affix → c ≠ '%') := by
  simp only [Scope.opens, Bool.or_eq_false_iff, Bool.and_eq_false_iff, decide_eq_false_iff_not,
    and_assoc]
  grind

theorem opens_cases {scope : Scope} {c : Char} (h : scope.opens c = true) :
    c = tick ∨ c = '^' ∨ c = '%' ∧ scope = .affix := by
  simpa [Scope.opens, or_assoc] using h

@[simp] theorem opens_tick (scope : Scope) : scope.opens tick = true := by simp [Scope.opens]

@[simp] theorem opens_caret (scope : Scope) : scope.opens '^' = true := by simp [Scope.opens]

@[simp] theorem opens_percent : Scope.affix.opens '%' = true := by decide

-- Which lexemes there are in a scope. A character that would have ended a lexeme does
-- not stand inside it.
def Lexeme.FitsIn (scope : Scope) : Lexeme → Prop
  | .text run => run ≠ [] ∧ ∀ c ∈ run, scope.opens c = false
  | .escaped body _ => tick ∉ body
  | .dependent primary alternative =>
    scope = .affix ∧ '%' ∉ primary ∧ ∀ other ∈ alternative, '%' ∉ other
  | .plural one many => '^' ∉ one ∧ '^' ∉ many
  | .unterminated marker => marker = '^' ∨ marker = '%' ∧ scope = .affix

-- What can follow a lexeme. It is as long as it can be, and lacks only what is not there.
def Lexeme.CanPrecede (scope : Scope) (after : Text) : Lexeme → Prop
  | .text _ => ∀ c ∈ after.head?, scope.opens c = true
  | .escaped _ closed => closed = false → after = []
  | .dependent _ alternative => alternative = none → '%' ∉ after
  | .plural .. => True
  | .unterminated marker => after.count marker ≤ if marker = '^' then 1 else 0

-- The lists of lexemes that a text can be read as.
inductive Readable (scope : Scope) : List Lexeme → Prop
  | nil : Readable scope []
  | cons {lexeme : Lexeme} {rest : List Lexeme} (fits : lexeme.FitsIn scope)
      (precedes : lexeme.CanPrecede scope (rest.flatMap Lexeme.spelling))
      (readable : Readable scope rest) : Readable scope (lexeme :: rest)

theorem Readable.fitsIn {scope : Scope} {lexemes : List Lexeme} (h : Readable scope lexemes) :
    ∀ lexeme ∈ lexemes, lexeme.FitsIn scope := by
  induction h with
  | nil => simp
  | cons fits _ _ ih => exact List.forall_mem_cons.2 ⟨fits, ih⟩

section Opening

variable {scope : Scope} {c : Char}

theorem fitsIn_openedByTick (scope : Scope) (rest : Text) :
    (openedByTick rest).1.FitsIn scope ∧
      (openedByTick rest).1.CanPrecede scope (openedByTick rest).2 := by
  unfold openedByTick
  split
  · next hcut => exact ⟨(eq_of_cut? hcut).2, fun hopen => nomatch hopen⟩
  · next hcut => exact ⟨cut?_eq_none_iff.1 hcut, fun _ => rfl⟩

theorem fitsIn_openedByCaret (scope : Scope) (rest : Text) :
    (openedByCaret rest).1.FitsIn scope ∧
      (openedByCaret rest).1.CanPrecede scope (openedByCaret rest).2 := by
  unfold openedByCaret
  split
  · next hone =>
    have hcount := List.count_eq_zero.2 (cut?_eq_none_iff.1 hone)
    exact ⟨.inl rfl, by simp [Lexeme.CanPrecede, hcount]⟩
  · next hone =>
    obtain ⟨hrest, hbefore⟩ := eq_of_cut? hone
    split
    · next hmany =>
      have hcount := List.count_eq_zero.2 (cut?_eq_none_iff.1 hmany)
      refine ⟨.inl rfl, ?_⟩
      simp [Lexeme.CanPrecede, hrest, hcount, List.count_eq_zero.2 hbefore]
    · next hmany => exact ⟨⟨hbefore, (eq_of_cut? hmany).2⟩, trivial⟩

theorem fitsIn_openedByPercent (rest : Text) :
    (openedByPercent rest).1.FitsIn .affix ∧
      (openedByPercent rest).1.CanPrecede .affix (openedByPercent rest).2 := by
  unfold openedByPercent
  split
  · next hprimary =>
    have hcount := List.count_eq_zero.2 (cut?_eq_none_iff.1 hprimary)
    exact ⟨.inr ⟨rfl, rfl⟩, by simp [Lexeme.CanPrecede, hcount]⟩
  · next hprimary =>
    split
    · next halternative =>
      exact ⟨⟨rfl, (eq_of_cut? hprimary).2, by simp⟩, fun _ => cut?_eq_none_iff.1 halternative⟩
    · next halternative =>
      refine ⟨⟨rfl, (eq_of_cut? hprimary).2, fun other hother => ?_⟩, fun hnone => nomatch hnone⟩
      obtain rfl := Option.some.inj hother
      exact (eq_of_cut? halternative).2

theorem fitsIn_opened (hopens : scope.opens c = true) (rest : Text) :
    (opened c rest).1.FitsIn scope ∧ (opened c rest).1.CanPrecede scope (opened c rest).2 := by
  rcases opens_cases hopens with rfl | rfl | ⟨rfl, rfl⟩
  · exact fitsIn_openedByTick scope rest
  · exact fitsIn_openedByCaret scope rest
  · exact fitsIn_openedByPercent rest

end Opening

theorem readable_lexemesOf (scope : Scope) (text : Text) :
    Readable scope (lexemesOf scope text) := by
  fun_induction lexemesOf scope text with
  | case1 => exact .nil
  | case2 c rest hopens ih =>
    obtain ⟨hfits, hprecedes⟩ := fitsIn_opened hopens rest
    exact .cons hfits (by rwa [flatMap_spelling_lexemesOf]) ih
  | case3 c rest hopens ih =>
    refine .cons ⟨by simp, ?_⟩ ?_ ih
    · have hrun := List.all_eq_true.1
        (List.all_takeWhile (p := fun c => !scope.opens c) (l := rest))
      rw [List.forall_mem_cons]
      exact ⟨by simpa using hopens, fun other hother => by simpa using hrun other hother⟩
    · rw [flatMap_spelling_lexemesOf]
      intro other hother
      have hhead := List.head?_dropWhile_not (fun c => !scope.opens c) rest
      rw [Option.mem_def.1 hother] at hhead
      simpa using hhead

section Rereading

variable {scope : Scope} {after : Text}

theorem lexemesOf_of_opened {c : Char} {rest : Text} {lexeme : Lexeme}
    (hopens : scope.opens c = true) (h : opened c rest = (lexeme, after)) :
    lexemesOf scope (c :: rest) = lexeme :: lexemesOf scope after := by
  rw [lexemesOf, if_pos hopens, h]

theorem lexemesOf_text {run : Text} (hfits : (Lexeme.text run).FitsIn scope)
    (hprecedes : (Lexeme.text run).CanPrecede scope after) :
    lexemesOf scope (run ++ after) = .text run :: lexemesOf scope after := by
  obtain ⟨hne, hrun⟩ := hfits
  obtain ⟨c, rest, rfl⟩ := List.exists_cons_of_ne_nil hne
  rw [List.forall_mem_cons] at hrun
  have hrest : ∀ other ∈ rest, (!scope.opens other) = true := by simpa using hrun.2
  have hstop : after.takeWhile (!scope.opens ·) = [] ∧
      after.dropWhile (!scope.opens ·) = after := by
    cases after with
    | nil => simp
    | cons other after => simp [hprecedes other rfl]
  rw [List.cons_append, lexemesOf, if_neg (by simp [hrun.1]), List.takeWhile_append_of_pos hrest,
    List.dropWhile_append_of_pos hrest, hstop.1, hstop.2, List.append_nil]

theorem lexemesOf_escaped {body : Text} {closed : Bool}
    (hfits : (Lexeme.escaped body closed).FitsIn scope)
    (hprecedes : (Lexeme.escaped body closed).CanPrecede scope after) :
    lexemesOf scope ((Lexeme.escaped body closed).spelling ++ after) =
      .escaped body closed :: lexemesOf scope after := by
  refine lexemesOf_of_opened (opens_tick scope) ?_
  cases closed with
  | true => simp [opened, openedByTick, cut?_append after hfits]
  | false =>
    obtain rfl := hprecedes rfl
    simp [opened, openedByTick, cut?_eq_none_iff.2 hfits]

theorem lexemesOf_plural {one many : Text} (hfits : (Lexeme.plural one many).FitsIn scope) :
    lexemesOf scope ((Lexeme.plural one many).spelling ++ after) =
      .plural one many :: lexemesOf scope after := by
  refine lexemesOf_of_opened (opens_caret scope) ?_
  have hcaret : '^' ≠ tick := by decide
  simp [opened, openedByCaret, hcaret, cut?_append _ hfits.1, cut?_append after hfits.2]

theorem lexemesOf_dependent {primary : Text} {alternative : Option Text}
    (hfits : (Lexeme.dependent primary alternative).FitsIn scope)
    (hprecedes : (Lexeme.dependent primary alternative).CanPrecede scope after) :
    lexemesOf scope ((Lexeme.dependent primary alternative).spelling ++ after) =
      .dependent primary alternative :: lexemesOf scope after := by
  obtain ⟨rfl, hprimary, halternative⟩ := hfits
  have htick : '%' ≠ tick := by decide
  cases alternative with
  | none =>
    refine lexemesOf_of_opened opens_percent ?_
    simp [opened, openedByPercent, htick, cut?_append _ hprimary,
      cut?_eq_none_iff.2 (hprecedes rfl)]
  | some other =>
    refine lexemesOf_of_opened opens_percent ?_
    simp [opened, openedByPercent, htick, cut?_append _ hprimary,
      cut?_append after (halternative other rfl)]

-- A caret with one other behind it is as unterminated as one with none.
theorem lexemesOf_unterminated {marker : Char} (hfits : (Lexeme.unterminated marker).FitsIn scope)
    (hprecedes : (Lexeme.unterminated marker).CanPrecede scope after) :
    lexemesOf scope (marker :: after) = .unterminated marker :: lexemesOf scope after := by
  rcases hfits with rfl | ⟨rfl, rfl⟩
  · refine lexemesOf_of_opened (opens_caret scope) ?_
    have hcaret : '^' ≠ tick := by decide
    have hcount : after.count '^' ≤ 1 := hprecedes
    simp only [opened, hcaret, if_false, if_true, openedByCaret]
    split
    · rfl
    · next one middle hone =>
      have hmany : '^' ∉ middle := by
        obtain ⟨rfl, -⟩ := eq_of_cut? hone
        rw [← List.count_eq_zero]
        simp only [List.count_append, List.count_cons_self] at hcount
        omega
      rw [cut?_eq_none_iff.2 hmany]
  · refine lexemesOf_of_opened opens_percent ?_
    have htick : '%' ≠ tick := by decide
    have hcount : after.count '%' = 0 := Nat.le_zero.1 hprecedes
    simp [opened, openedByPercent, htick, cut?_eq_none_iff.2 (List.count_eq_zero.1 hcount)]

end Rereading

theorem lexemesOf_flatMap_spelling {scope : Scope} {lexemes : List Lexeme}
    (h : Readable scope lexemes) :
    lexemesOf scope (lexemes.flatMap Lexeme.spelling) = lexemes := by
  induction h with
  | nil => simp [lexemesOf]
  | @cons lexeme rest fits precedes _ ih =>
    rw [List.flatMap_cons]
    cases lexeme with
    | text run => rw [Lexeme.spelling, lexemesOf_text fits precedes, ih]
    | escaped body closed => rw [lexemesOf_escaped fits precedes, ih]
    | dependent primary alternative => rw [lexemesOf_dependent fits precedes, ih]
    | plural one many => rw [lexemesOf_plural fits, ih]
    | unterminated marker =>
      rw [Lexeme.spelling, List.singleton_append, lexemesOf_unterminated fits precedes, ih]

-- A text can be read in one way only.
theorem lexemesOf_eq_iff {scope : Scope} {text : Text} {lexemes : List Lexeme} :
    lexemesOf scope text = lexemes ↔
      Readable scope lexemes ∧ lexemes.flatMap Lexeme.spelling = text := by
  constructor
  · rintro rfl
    exact ⟨readable_lexemesOf scope text, flatMap_spelling_lexemesOf scope text⟩
  · rintro ⟨hreadable, rfl⟩
    exact lexemesOf_flatMap_spelling hreadable

-- What a lexeme says besides the texts of a marker has no tick in it: a tick only
-- begins and ends a quotation.
def Lexeme.IsUnticked : Lexeme → Prop
  | .text run => tick ∉ run
  | .escaped body _ => tick ∉ body
  | .dependent .. => True
  | .plural .. => True
  | .unterminated marker => marker ≠ tick

theorem Lexeme.FitsIn.isUnticked {scope : Scope} {lexeme : Lexeme} (h : lexeme.FitsIn scope) :
    lexeme.IsUnticked := by
  cases lexeme with
  | text run => exact fun hmem => (opens_eq_false_iff.1 (h.2 tick hmem)).1 rfl
  | escaped body closed => exact h
  | dependent primary alternative => trivial
  | plural one many => trivial
  | unterminated marker =>
    rcases h with rfl | ⟨rfl, -⟩
    · exact (by decide : '^' ≠ tick)
    · exact (by decide : '%' ≠ tick)

theorem isUnticked_of_mem_lexemesOf {scope : Scope} {text : Text} {lexeme : Lexeme}
    (h : lexeme ∈ lexemesOf scope text) : lexeme.IsUnticked :=
  ((readable_lexemesOf scope text).fitsIn lexeme h).isUnticked

end Referencing.Template
