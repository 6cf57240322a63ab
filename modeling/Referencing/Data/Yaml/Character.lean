import Referencing.Text.Ranges
import Referencing.Text.Basic

namespace Referencing.Yaml

def isGap (c : Char) : Bool :=
  c = ' ' || c = '\t'

-- A line ends with a line feed or with a separator of lines or paragraphs.
def isBreak (c : Char) : Bool :=
  c = '\n' || c.toNat = 0x2028 || c.toNat = 0x2029

-- A gap, a line end or the end of the text.
def isSpaced (rest : Text) : Bool :=
  rest.head?.all fun c => isGap c || isBreak c

-- The mark that tells the order of bytes. At the beginning of a line it means
-- nothing.
def isOrderMark (c : Char) : Bool :=
  c.toNat = 0xFEFF

-- What a text is made of: no control characters other than tabs and line ends.
def isReadable (c : Char) : Bool :=
  c ∈ ['\t', '\n', '\r'] || Text.within
    [(0x20, 0x7E), (0x85, 0x85), (0xA0, 0xFFFD), (0x10000, 0x10FFFF)] c.toNat

-- A carriage return, with or without a line feed, and the next-line character
-- end a line as a line feed does.
def unifyBreaks : Text → Text
  | [] => []
  | '\r' :: '\n' :: rest => '\n' :: unifyBreaks rest
  | '\r' :: rest => '\n' :: unifyBreaks rest
  | c :: rest => (if c.toNat = 0x85 then '\n' else c) :: unifyBreaks rest

-- Three dashes or three full stops, alone at the beginning of a line, bound a
-- document.
def beginsWithBound : Text → Bool
  | '-' :: '-' :: '-' :: rest => isSpaced rest
  | '.' :: '.' :: '.' :: rest => isSpaced rest
  | _ => false

end Referencing.Yaml
