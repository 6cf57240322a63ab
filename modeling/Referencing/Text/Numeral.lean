import Referencing.Text.Basic

namespace Referencing.Text

def isDigit (c : Char) : Bool :=
  '0' ≤ c && c ≤ '9'

def digitValue (c : Char) : Nat :=
  c.toNat - '0'.toNat

def numeralValue (digits : Text) : Nat :=
  digits.foldl (fun value c => 10 * value + digitValue c) 0

-- A numeral is an optional plus sign and at least one decimal digit; its value
-- must lie below the bound.
def numeral? (bound : Nat) (text : Text) : Option Nat :=
  let digits := if text.head? = some '+' then text.tail else text
  if digits ≠ [] && digits.all isDigit && numeralValue digits < bound then
    some (numeralValue digits)
  else none

-- The first number that has no place in 32 bits, and in 64.
def smallBound : Nat := 0x100000000

def largeBound : Nat := 0x10000000000000000

-- Editions, days and running times are counted in 32 bits, months in 64.
def smallNumeral? : Text → Option Nat :=
  numeral? smallBound

def largeNumeral? : Text → Option Nat :=
  numeral? largeBound

def ofNat (n : Nat) : Text :=
  Nat.toDigits 10 n

def twoDigits (n : Nat) : Text :=
  if n < 10 then '0' :: ofNat n else ofNat n

def hexValue? (c : Char) : Option Nat :=
  if '0' ≤ c && c ≤ '9' then some (c.toNat - '0'.toNat)
  else if 'a' ≤ c && c ≤ 'f' then some (c.toNat - 'a'.toNat + 10)
  else if 'A' ≤ c && c ≤ 'F' then some (c.toNat - 'A'.toNat + 10)
  else none

-- The number that a text of hexadecimal digits denotes.
def hexadecimal? (digits : Text) : Option Nat :=
  digits.foldlM (fun value c => (hexValue? c).map (16 * value + ·)) 0

-- The character of a code point; surrogates and numbers beyond the last code
-- point have none.
def codePoint? (n : Nat) : Option Char :=
  if h : n.isValidChar then some (Char.ofNatAux n h) else none

def hexadecimal (n : Nat) : Text :=
  Nat.toDigits 16 n

theorem isDigit_of_mem_ofNat {c : Char} {n : Nat} (h : c ∈ ofNat n) : isDigit c = true := by
  have hdigit := Nat.isDigit_of_mem_toDigits (by omega) (by omega) h
  simpa [isDigit, Char.isDigit, Char.le_def] using hdigit

theorem ofNat_ne_nil (n : Nat) : ofNat n ≠ [] :=
  Nat.toDigits_ne_nil

-- A number is read back from its digits.
theorem numeralValue_ofNat (n : Nat) : numeralValue (ofNat n) = n := by
  rw [numeralValue, ofNat]
  simp only [digitValue]
  rw [← Nat.ofDigitChars_eq_foldl, Nat.ofDigitChars_ten_toDigits]

end Referencing.Text
