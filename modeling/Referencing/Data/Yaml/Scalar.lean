import Referencing.Data.Yaml.Character
import Referencing.Text.Numeral

namespace Referencing.Yaml

open Text

-- What stands between two words of a scalar: blanks on one line, or line ends
-- with the blanks about them, of which the last `column` indent the next line. A
-- line end that is escaped is not among the breaks.
inductive Joint
  | blanks (gap : Text)
  | breaks (escaped : Bool) (ends : Text) (column : Nat)

namespace Joint

def empty : Joint := .blanks []

def isBroken : Joint → Bool
  | .blanks _ => false
  | .breaks .. => true

def isLineStart : Joint → Bool
  | .breaks _ _ 0 => true
  | _ => false

def extend (c : Char) : Joint → Joint
  | .blanks gap => if isBreak c then .breaks false [c] 0 else .blanks (gap ++ [c])
  | .breaks escaped ends column =>
    if isBreak c then .breaks escaped (ends ++ [c]) 0 else .breaks escaped ends (column + 1)

-- A single line feed is folded into a blank; of several the first is dropped.
def text : Joint → Text
  | .blanks gap => gap
  | .breaks true ends _ => ends
  | .breaks false ['\n'] _ => [' ']
  | .breaks false ('\n' :: ends) _ => ends
  | .breaks false ends _ => ends

end Joint

private def simpleEscape? : Char → Option Char
  | '0' => some '\x00'
  | 'a' => some '\x07'
  | 'b' => some '\x08'
  | 't' => some '\t'
  | '\t' => some '\t'
  | 'n' => some '\n'
  | 'v' => some '\x0b'
  | 'f' => some '\x0c'
  | 'r' => some '\r'
  | 'e' => some '\x1b'
  | ' ' => some ' '
  | '"' => some '"'
  | '/' => some '/'
  | '\\' => some '\\'
  | 'N' => some (Char.ofNat 0x85)
  | '_' => some (Char.ofNat 0xA0)
  | 'L' => some (Char.ofNat 0x2028)
  | 'P' => some (Char.ofNat 0x2029)
  | _ => none

private def coded? (digits : Text) : Option Char := do
  let n ← hexadecimal? digits
  codePoint? n

-- What the beginning of a text has been read as, and how many characters that is.
structure Quoted where
  text : Text
  size : Nat
  deriving DecidableEq, Repr

-- Adds what was read before, from as many characters.
private def after (text : Text) (size : Nat) (quoted : Option Quoted) : Option Quoted :=
  quoted.map fun quoted => ⟨text ++ quoted.text, size + quoted.size⟩

-- A double-quoted scalar from behind its opening quote on. No line of it bounds a
-- document.
def doubleQuoted? (joint : Joint) : Text → Option Quoted
  | [] => none
  | '"' :: _ => some ⟨joint.text, 1⟩
  | '\\' :: 'x' :: a :: b :: rest => do
    let c ← coded? [a, b]
    after (joint.text ++ [c]) 4 (doubleQuoted? .empty rest)
  | '\\' :: 'u' :: a :: b :: c :: d :: rest => do
    let c ← coded? [a, b, c, d]
    after (joint.text ++ [c]) 6 (doubleQuoted? .empty rest)
  | '\\' :: 'U' :: a :: b :: c :: d :: e :: f :: g :: h :: rest => do
    let c ← coded? [a, b, c, d, e, f, g, h]
    after (joint.text ++ [c]) 10 (doubleQuoted? .empty rest)
  | '\\' :: c :: rest =>
    if isBreak c then after joint.text 2 (doubleQuoted? (.breaks true [] 0) rest)
    else do
      let c ← simpleEscape? c
      after (joint.text ++ [c]) 2 (doubleQuoted? .empty rest)
  | c :: rest =>
    if isGap c || isBreak c then after [] 1 (doubleQuoted? (joint.extend c) rest)
    else if joint.isLineStart && beginsWithBound (c :: rest) then none
    else after (joint.text ++ [c]) 1 (doubleQuoted? .empty rest)

-- A single-quoted scalar; its quote is written twice inside.
def singleQuoted? (joint : Joint) : Text → Option Quoted
  | [] => none
  | '\x27' :: '\x27' :: rest => after (joint.text ++ ['\x27']) 2 (singleQuoted? .empty rest)
  | '\x27' :: _ => some ⟨joint.text, 1⟩
  | c :: rest =>
    if isGap c || isBreak c then after [] 1 (singleQuoted? (joint.extend c) rest)
    else if joint.isLineStart && beginsWithBound (c :: rest) then none
    else after (joint.text ++ [c]) 1 (singleQuoted? .empty rest)

-- Characters with a meaning of their own at the beginning of a scalar.
private def isIndicator (c : Char) : Bool :=
  c ∈ ",[]\x7b\x7d#&*!|>'\"%@\x60".toList

-- A dash, question mark or colon begins a plain scalar only if something follows
-- it directly; between brackets only the dash does.
def mayBeginPlain (bracketed : Bool) : Text → Bool
  | [] => false
  | c :: rest =>
    if c = '-' then !isSpaced rest
    else if c = '?' || c = ':' then !bracketed && !isSpaced rest
    else !isIndicator c && !isGap c && !isBreak c

-- What a plain scalar is read as, how many characters it and the blanks after it
-- are, and whether a line end is among those blanks.
structure Plain where
  text : Text
  size : Nat
  isBroken : Bool
  deriving DecidableEq, Repr

-- Whether a plain scalar ends at the character that follows a joint: its lines
-- stand at column `least` or further right, and a comment or the bound of a
-- document ends it.
private def endsAfter (bracketed : Bool) (least : Nat) (joint : Joint) (text : Text) : Bool :=
  match joint with
  | .blanks gap => !gap.isEmpty && text.head? = some '#'
  | .breaks _ _ column =>
    (!bracketed && column < least) || text.head? = some '#' ||
      (column = 0 && beginsWithBound text)

-- A tab must not stand where a line is indented too little.
private def isMisplacedTab (least : Nat) (joint : Joint) (c : Char) : Bool :=
  match joint with
  | .blanks _ => false
  | .breaks _ _ column => c = '\t' && column < least

private def isBracketOrComma (c : Char) : Bool :=
  c ∈ ",[]\x7b\x7d".toList

private def afterWord (text : Text) (plain : Option Plain) : Option Plain :=
  plain.map fun plain => { plain with text := text ++ plain.text, size := plain.size + 1 }

-- A colon directly before a bracket or comma is no part of a plain scalar and no
-- end of it.
def plain? (bracketed : Bool) (least : Nat) (joint : Joint) : Text → Option Plain
  | [] => some ⟨[], 0, joint.isBroken⟩
  | c :: rest =>
    if isGap c || isBreak c then
      if isMisplacedTab least joint c then none
      else afterWord [] (plain? bracketed least (joint.extend c) rest)
    else if endsAfter bracketed least joint (c :: rest) then some ⟨[], 0, joint.isBroken⟩
    else if bracketed && c = ':' && rest.head?.any (fun c => isBracketOrComma c || c = '?') then
      none
    else if (c = ':' && isSpaced rest) || (bracketed && isBracketOrComma c) then
      some ⟨[], 0, joint.isBroken⟩
    else afterWord (joint.text ++ [c]) (plain? bracketed least .empty rest)

end Referencing.Yaml
