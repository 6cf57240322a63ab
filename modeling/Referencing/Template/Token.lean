import Referencing.Text.Bytes

namespace Referencing.Template

open Text

-- The character that quotes template text.
def tick : Char := '\x60'

-- A whole segment is read before its field is found; there a percent sign may
-- still straddle the field name and is text. In what stands before or after
-- the field it opens a marker.
inductive Scope
  | segment
  | affix
  deriving DecidableEq, Repr

def Scope.opens (scope : Scope) (c : Char) : Bool :=
  c = tick || c = '^' || (c = '%' && scope = .affix)

inductive TokenKind
  | text (run : Text)
  -- Quoted text, without its ticks.
  | escaped (body : Text)
  | dependent (primary : Text) (alternative : Option Text)
  | plural (one many : Text)
  -- A marker character without its partners.
  | unterminated (marker : Char)
  deriving DecidableEq, Repr

-- A token with the bytes that it was read from.
structure Token where
  kind : TokenKind
  start : Nat
  stop : Nat
  deriving DecidableEq, Repr

-- A quotation that is not closed goes on to the end.
def openedByTick? (text : Text) (position : Nat) : Option Token :=
  let body := position + 1
  (behind? body text).bind fun rest =>
    match offset? tick rest with
    | some offset =>
      let close := body + offset
      (slice? body close text).map fun quoted => ⟨.escaped quoted, position, close + 1⟩
    | none => some ⟨.escaped rest, position, size text⟩

def openedByCaret? (text : Text) (position : Nat) : Option Token :=
  let one := position + 1
  let alone : Token := ⟨.unterminated '^', position, position + 1⟩
  (behind? one text).bind fun rest =>
    match offset? '^' rest with
    | none => some alone
    | some offset =>
      let second := one + offset
      let many := second + 1
      (behind? many text).bind fun rest =>
        match offset? '^' rest with
        | none => some alone
        | some offset =>
          let third := many + offset
          (slice? one second text).bind fun singular =>
            (slice? many third text).map fun plural =>
              ⟨.plural singular plural, position, third + 1⟩

def openedByPercent? (text : Text) (position : Nat) : Option Token :=
  let body := position + 1
  (behind? body text).bind fun rest =>
    match offset? '%' rest with
    | none => some ⟨.unterminated '%', position, position + 1⟩
    | some offset =>
      let second := body + offset
      (slice? body second text).bind fun primary =>
        (behind? (second + 1) text).bind fun rest =>
          match offset? '%' rest with
          | some offset =>
            let third := second + 1 + offset
            (slice? (second + 1) third text).map fun alternative =>
              ⟨.dependent primary (some alternative), position, third + 1⟩
          | none => some ⟨.dependent primary none, position, second + 1⟩

-- The token that a structural character opens at a byte of a text. Whichever marker
-- opens first wins: what it encloses is not looked at again.
def opened? (c : Char) (text : Text) (position : Nat) : Option Token :=
  if c = tick then openedByTick? text position
  else if c = '^' then openedByCaret? text position
  else openedByPercent? text position

-- How far the reading of a text has come: the tokens so far, where the plain text began
-- that is no token yet, and the cursor.
structure Lexing where
  tokens : List Token := []
  textStart : Option Nat := none
  position : Nat := 0

namespace Lexing

-- The plain text up to a byte becomes a token, unless it is empty.
def flush? (stop : Nat) (text : Text) (lexing : Lexing) : Option Lexing :=
  match lexing.textStart with
  | none => some lexing
  | some start =>
    if start < stop then
      (slice? start stop text).map fun run =>
        { lexing with tokens := lexing.tokens ++ [⟨.text run, start, stop⟩], textStart := none }
    else some { lexing with textStart := none }

def push (lexing : Lexing) (token : Token) : Lexing :=
  { lexing with tokens := lexing.tokens ++ [token], position := token.stop }

def step? (scope : Scope) (text : Text) (c : Char) (lexing : Lexing) : Option Lexing :=
  if scope.opens c then
    (lexing.flush? lexing.position text).bind fun flushed =>
      (opened? c text lexing.position).map flushed.push
  else
    some { lexing with
      textStart := some (lexing.textStart.getD lexing.position)
      position := lexing.position + c.utf8Size }

end Lexing

theorem lt_stop_of_openedByTick? {text : Text} {position : Nat} {token : Token}
    (h : openedByTick? text position = some token) : position < token.stop := by
  obtain ⟨rest, hrest, htoken⟩ := Option.bind_eq_some_iff.1 h
  split at htoken
  · obtain ⟨quoted, -, rfl⟩ := Option.map_eq_some_iff.1 htoken
    exact Nat.lt_succ_of_le (by omega)
  · obtain rfl := Option.some.inj htoken
    obtain ⟨before, rfl, hbefore⟩ := eq_of_behind? hrest
    simp only [size_append]
    omega

theorem lt_stop_of_openedByCaret? {text : Text} {position : Nat} {token : Token}
    (h : openedByCaret? text position = some token) : position < token.stop := by
  obtain ⟨rest, -, htoken⟩ := Option.bind_eq_some_iff.1 h
  split at htoken
  · obtain rfl := Option.some.inj htoken
    exact Nat.lt_succ_self position
  · obtain ⟨rest, -, htoken⟩ := Option.bind_eq_some_iff.1 htoken
    split at htoken
    · obtain rfl := Option.some.inj htoken
      exact Nat.lt_succ_self position
    · obtain ⟨singular, -, htoken⟩ := Option.bind_eq_some_iff.1 htoken
      obtain ⟨plural, -, rfl⟩ := Option.map_eq_some_iff.1 htoken
      exact Nat.lt_succ_of_le (by omega)

theorem lt_stop_of_openedByPercent? {text : Text} {position : Nat} {token : Token}
    (h : openedByPercent? text position = some token) : position < token.stop := by
  obtain ⟨rest, -, htoken⟩ := Option.bind_eq_some_iff.1 h
  split at htoken
  · obtain rfl := Option.some.inj htoken
    exact Nat.lt_succ_self position
  · obtain ⟨primary, -, htoken⟩ := Option.bind_eq_some_iff.1 htoken
    obtain ⟨rest, -, htoken⟩ := Option.bind_eq_some_iff.1 htoken
    split at htoken
    · obtain ⟨alternative, -, rfl⟩ := Option.map_eq_some_iff.1 htoken
      exact Nat.lt_succ_of_le (by omega)
    · obtain rfl := Option.some.inj htoken
      exact Nat.lt_succ_of_le (by omega)

theorem lt_stop_of_opened? {c : Char} {text : Text} {position : Nat} {token : Token}
    (h : opened? c text position = some token) : position < token.stop := by
  unfold opened? at h
  split at h
  · exact lt_stop_of_openedByTick? h
  · split at h
    · exact lt_stop_of_openedByCaret? h
    · exact lt_stop_of_openedByPercent? h

namespace Lexing

-- Every step moves on.
theorem lt_position_of_step? {scope : Scope} {text : Text} {c : Char} {lexing next : Lexing}
    (h : lexing.step? scope text c = some next) : lexing.position < next.position := by
  unfold step? at h
  split at h
  · obtain ⟨flushed, -, hpush⟩ := Option.bind_eq_some_iff.1 h
    obtain ⟨token, htoken, rfl⟩ := Option.map_eq_some_iff.1 hpush
    exact lt_stop_of_opened? htoken
  · obtain rfl := Option.some.inj h
    exact Nat.lt_add_of_pos_right c.utf8Size_pos

-- There would be no result if a cursor came to stand inside a character.
def run? (scope : Scope) (text : Text) (lexing : Lexing) : Option Lexing :=
  match _ : behind? lexing.position text with
  | none => none
  | some [] => lexing.flush? (size text) text
  | some (c :: _) =>
    match _ : lexing.step? scope text c with
    | none => none
    | some next => next.run? scope text
termination_by size text - lexing.position
decreasing_by
  have hlt := lt_position_of_step? ‹_›
  obtain ⟨before, rfl, hbefore⟩ := eq_of_behind? ‹_›
  have hpos := c.utf8Size_pos
  simp only [size_append, size_cons]
  omega

end Lexing

def lex? (scope : Scope) (text : Text) : Option (List Token) :=
  (Lexing.run? scope text {}).map (·.tokens)

-- The tokens of a text, each with its bytes.
def lex (scope : Scope) (text : Text) : List Token :=
  (lex? scope text).getD []

end Referencing.Template
