import Referencing.Data.Json
import Referencing.Data.Tree
import Referencing.Text.Numeral

namespace Referencing.Json

open Text

private def isSpace (c : Char) : Bool :=
  c ∈ [' ', '\t', '\n', '\r']

private def isHighSurrogate (unit : Nat) : Bool :=
  0xD800 ≤ unit && unit < 0xDC00

private def isLowSurrogate (unit : Nat) : Bool :=
  0xDC00 ≤ unit && unit < 0xE000

private def escaped? : Char → Option Char
  | '"' => some '"'
  | '\\' => some '\\'
  | '/' => some '/'
  | 'b' => some '\x08'
  | 'f' => some '\x0c'
  | 'n' => some '\n'
  | 'r' => some '\r'
  | 't' => some '\t'
  | _ => none

-- A character written as one UTF-16 unit, or as two that form a pair.
private def ofUnits? (first : Nat) (second : Option Nat) : Option Char :=
  match second with
  | none => codePoint? first
  | some second =>
    if isHighSurrogate first && isLowSurrogate second then
      codePoint? (0x10000 + (first - 0xD800) * 0x400 + (second - 0xDC00))
    else none

private def keep (c : Char) (rest : Option (Text × Text)) : Option (Text × Text) :=
  rest.map fun (body, after) => (c :: body, after)

-- The text of a string and what follows its closing quote. Control characters
-- have to be escaped.
def string? : Text → Option (Text × Text)
  | [] => none
  | '"' :: rest => some ([], rest)
  | '\\' :: 'u' :: a :: b :: c :: d :: rest => do
    let first ← hexadecimal? [a, b, c, d]
    if isHighSurrogate first then
      match rest with
      | '\\' :: 'u' :: e :: f :: g :: h :: rest =>
        let second ← hexadecimal? [e, f, g, h]
        keep (← ofUnits? first (some second)) (string? rest)
      | _ => none
    else keep (← ofUnits? first none) (string? rest)
  | '\\' :: c :: rest => do keep (← escaped? c) (string? rest)
  | c :: rest => if c.toNat < 0x20 then none else keep c (string? rest)

-- What stands before the closing quote of a string that is well formed, and what
-- follows the quote.
private def literal? : Text → Option (Text × Text)
  | [] => none
  | '"' :: rest => some ([], rest)
  | '\\' :: 'u' :: a :: b :: c :: d :: rest =>
    match hexadecimal? [a, b, c, d] with
    | none => none
    | some _ => (literal? rest).map fun (body, after) => (['\\', 'u', a, b, c, d] ++ body, after)
  | '\\' :: c :: rest =>
    if (escaped? c).isNone then none
    else (literal? rest).map fun (body, after) => ('\\' :: c :: body, after)
  | c :: rest => if c.toNat < 0x20 then none else keep c (literal? rest)

private def quoted? (text : Text) : Option (JsonLeaf × Text) :=
  match string? text with
  | some (body, after) => some (.text body, after)
  | none => (literal? text).map fun (body, after) => (.unpaired body, after)

private def isNumeralChar (c : Char) : Bool :=
  isDigit c || c ∈ ['+', '-', '.', 'e', 'E']

private def digitsThen (text : Text) : Text × Text :=
  (text.takeWhile isDigit, text.dropWhile isDigit)

private def isExponent : Text → Bool
  | [] => true
  | c :: '+' :: rest => (c = 'e' || c = 'E') && rest ≠ [] && rest.all isDigit
  | c :: '-' :: rest => (c = 'e' || c = 'E') && rest ≠ [] && rest.all isDigit
  | c :: rest => (c = 'e' || c = 'E') && rest ≠ [] && rest.all isDigit

private def isFraction : Text → Bool
  | '.' :: rest =>
    let (digits, rest) := digitsThen rest
    digits ≠ [] && isExponent rest
  | rest => isExponent rest

-- Digits without a superfluous zero, then perhaps a fraction and an exponent.
private def number? (literal : Text) : Option JsonNumber :=
  let (digits, rest) := digitsThen (if literal.head? = some '-' then literal.tail else literal)
  if digits = [] || (digits.head? = some '0' && digits.length ≠ 1) then none
  else if isFraction rest then
    if literal = digits then some (.natural (numeralValue digits)) else some (.other literal)
  else none

private def word? (word : Text) : Option JsonLeaf :=
  if word = "null".toList then some .null
  else if word = "true".toList then some (.bool true)
  else if word = "false".toList then some (.bool false)
  else (number? word).map .number

private def punctuation? : Char → Option (Tree.Sign JsonLeaf)
  | '[' => some .beginList
  | ']' => some .endList
  | '\x7b' => some .beginMapping
  | '\x7d' => some .endMapping
  | ',' => some .comma
  | ':' => some .colon
  | _ => none

private def isWordChar (c : Char) : Bool :=
  c.isAlpha || isNumeralChar c

-- The sign that a text begins with, and what follows it.
private def sign? (c : Char) (rest : Text) : Option (Tree.Sign JsonLeaf × Text) :=
  match punctuation? c with
  | some sign => some (sign, rest)
  | none =>
    if c = '"' then (quoted? rest).map fun (leaf, after) => (.leaf leaf, after)
    else
      (word? (c :: rest.takeWhile isWordChar)).map fun leaf =>
        (.leaf leaf, rest.dropWhile isWordChar)

-- The signs of a text. Every sign takes at least one character, so as much fuel
-- as there are characters suffices.
private def signsWith : Nat → Text → Option (List (Tree.Sign JsonLeaf))
  | _, [] => some []
  | 0, _ => none
  | fuel + 1, c :: rest =>
    if isSpace c then signsWith fuel rest
    else do
      let (sign, after) ← sign? c rest
      let signs ← signsWith fuel after
      some (sign :: signs)

private def asKey : JsonLeaf → Option Text
  | .text key => some key
  | _ => none

def parse? (text : Text) : Option Json := do
  let signs ← signsWith text.length text
  Tree.ofSigns? asKey signs

end Referencing.Json
