import Referencing.Text.Basic
import Referencing.Text.Ranges

namespace Referencing.Text

-- White space in the sense of Unicode: the zero-width space and the
-- byte-order mark are not in it.
def blankRanges : List (Nat × Nat) :=
  [
    (0x9, 0xD), (0x20, 0x20), (0x85, 0x85), (0xA0, 0xA0), (0x1680, 0x1680), (0x2000, 0x200A),
    (0x2028, 0x2029), (0x202F, 0x202F), (0x205F, 0x205F), (0x3000, 0x3000)]

def isBlank (c : Char) : Bool :=
  within blankRanges c.toNat

def trimStart (text : Text) : Text :=
  text.dropWhile isBlank

def trimEnd (text : Text) : Text :=
  (text.reverse.dropWhile isBlank).reverse

def trim (text : Text) : Text :=
  trimEnd (trimStart text)

def isBlankText (text : Text) : Bool :=
  text.all isBlank

-- The blank part that `trimStart` drops.
def leadingBlank (text : Text) : Text :=
  text.takeWhile isBlank

-- The maximal runs of characters that are not blank.
def words (text : Text) : List Text :=
  (splitWhere isBlank text).filter (· ≠ [])

theorem leadingBlank_append_trimStart (text : Text) :
    leadingBlank text ++ trimStart text = text :=
  List.takeWhile_append_dropWhile

end Referencing.Text
