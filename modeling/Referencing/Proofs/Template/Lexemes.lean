import Referencing.Template.Token

namespace Referencing.Template

open Text

-- What the scanner comes upon, told by characters and not by bytes.
inductive Lexeme
  | text (run : Text)
  -- Quoted text; `closed` tells whether the second tick is there.
  | escaped (body : Text) (closed : Bool)
  | dependent (primary : Text) (alternative : Option Text)
  | plural (one many : Text)
  -- A marker character without its partners.
  | unterminated (marker : Char)
  deriving DecidableEq, Repr

-- The characters that a lexeme is written with.
def Lexeme.spelling : Lexeme → Text
  | .text run => run
  | .escaped body closed => tick :: body ++ (if closed then [tick] else [])
  | .dependent primary none => '%' :: primary ++ ['%']
  | .dependent primary (some alternative) => '%' :: primary ++ '%' :: alternative ++ ['%']
  | .plural one many => '^' :: one ++ '^' :: many ++ ['^']
  | .unterminated marker => [marker]

def openedByTick (rest : Text) : Lexeme × Text :=
  match cut? tick rest with
  | some (body, after) => (.escaped body true, after)
  | none => (.escaped rest false, [])

def openedByCaret (rest : Text) : Lexeme × Text :=
  match cut? '^' rest with
  | none => (.unterminated '^', rest)
  | some (one, middle) =>
    match cut? '^' middle with
    | none => (.unterminated '^', rest)
    | some (many, after) => (.plural one many, after)

def openedByPercent (rest : Text) : Lexeme × Text :=
  match cut? '%' rest with
  | none => (.unterminated '%', rest)
  | some (primary, middle) =>
    match cut? '%' middle with
    | none => (.dependent primary none, middle)
    | some (alternative, after) => (.dependent primary (some alternative), after)

-- The lexeme that a structural character opens, and what is left after it.
-- Whichever marker opens first wins: what it encloses is not looked at again.
def opened (c : Char) (rest : Text) : Lexeme × Text :=
  if c = tick then openedByTick rest
  else if c = '^' then openedByCaret rest
  else openedByPercent rest

private theorem openedByTick_spelling (rest : Text) :
    (openedByTick rest).1.spelling ++ (openedByTick rest).2 = tick :: rest := by
  unfold openedByTick
  split
  · next h => simp [Lexeme.spelling, (eq_of_cut? h).1]
  · simp [Lexeme.spelling]

private theorem openedByCaret_spelling (rest : Text) :
    (openedByCaret rest).1.spelling ++ (openedByCaret rest).2 = '^' :: rest := by
  unfold openedByCaret
  split
  · simp [Lexeme.spelling]
  · next h =>
    split
    · simp [Lexeme.spelling]
    · next h' => simp [Lexeme.spelling, (eq_of_cut? h).1, (eq_of_cut? h').1]

private theorem openedByPercent_spelling (rest : Text) :
    (openedByPercent rest).1.spelling ++ (openedByPercent rest).2 = '%' :: rest := by
  unfold openedByPercent
  split
  · simp [Lexeme.spelling]
  · next h =>
    split
    · simp [Lexeme.spelling, (eq_of_cut? h).1]
    · next h' => simp [Lexeme.spelling, (eq_of_cut? h).1, (eq_of_cut? h').1]

theorem opened_spelling {scope : Scope} {c : Char} (hopens : scope.opens c) (rest : Text) :
    (opened c rest).1.spelling ++ (opened c rest).2 = c :: rest := by
  unfold opened
  split
  · next h => rw [h]; exact openedByTick_spelling rest
  · next htick =>
    split
    · next h => rw [h]; exact openedByCaret_spelling rest
    · next hcaret =>
      have hpercent : c = '%' := by
        simp only [Scope.opens, htick, hcaret, decide_false, Bool.false_or, Bool.and_eq_true,
          decide_eq_true_eq] at hopens
        exact hopens.1
      rw [hpercent]
      exact openedByPercent_spelling rest

private theorem length_openedByTick_le (rest : Text) :
    (openedByTick rest).2.length ≤ rest.length := by
  unfold openedByTick
  split
  · next h => exact Nat.le_of_lt (length_lt_of_cut? h)
  · exact Nat.zero_le _

private theorem length_openedByCaret_le (rest : Text) :
    (openedByCaret rest).2.length ≤ rest.length := by
  unfold openedByCaret
  split
  · exact Nat.le_refl _
  · next h =>
    split
    · exact Nat.le_refl _
    · next h' =>
      exact Nat.le_of_lt (Nat.lt_trans (length_lt_of_cut? h') (length_lt_of_cut? h))

private theorem length_openedByPercent_le (rest : Text) :
    (openedByPercent rest).2.length ≤ rest.length := by
  unfold openedByPercent
  split
  · exact Nat.le_refl _
  · next h =>
    split
    · exact Nat.le_of_lt (length_lt_of_cut? h)
    · next h' =>
      exact Nat.le_of_lt (Nat.lt_trans (length_lt_of_cut? h') (length_lt_of_cut? h))

theorem length_opened_le (c : Char) (rest : Text) : (opened c rest).2.length ≤ rest.length := by
  unfold opened
  split
  · exact length_openedByTick_le rest
  · split
    · exact length_openedByCaret_le rest
    · exact length_openedByPercent_le rest

def lexemesOf (scope : Scope) : Text → List Lexeme
  | [] => []
  | c :: rest =>
    if scope.opens c then
      (opened c rest).1 :: lexemesOf scope (opened c rest).2
    else
      .text (c :: rest.takeWhile (!scope.opens ·)) ::
        lexemesOf scope (rest.dropWhile (!scope.opens ·))
termination_by text => text.length
decreasing_by
  · have := length_opened_le c rest
    simp only [List.length_cons]
    omega
  · have := (List.dropWhile_sublist (p := fun c => !scope.opens c) (l := rest)).length_le
    simp only [List.length_cons]
    omega

-- What a lexeme is as a token.
def Lexeme.kind : Lexeme → TokenKind
  | .text run => .text run
  | .escaped body _ => .escaped body
  | .dependent primary alternative => .dependent primary alternative
  | .plural one many => .plural one many
  | .unterminated marker => .unterminated marker

theorem kind_eq_text_iff {lexeme : Lexeme} {run : Text} :
    lexeme.kind = .text run ↔ lexeme = .text run := by
  cases lexeme <;> simp [Lexeme.kind]

theorem kind_eq_dependent_iff {lexeme : Lexeme} {primary : Text} {alternative : Option Text} :
    lexeme.kind = .dependent primary alternative ↔ lexeme = .dependent primary alternative := by
  cases lexeme <;> simp [Lexeme.kind]

theorem kind_eq_unterminated_iff {lexeme : Lexeme} {marker : Char} :
    lexeme.kind = .unterminated marker ↔ lexeme = .unterminated marker := by
  cases lexeme <;> simp [Lexeme.kind]

end Referencing.Template
