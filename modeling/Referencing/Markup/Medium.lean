import Referencing.Markup.Marker
import Referencing.Text.Numeral

namespace Referencing.Markup

open Text

-- How a medium writes characters, inline tags and the en dash.
structure Medium where
  escape : Char → Text
  opening : Tag → Text
  closing : Tag → Text
  ndash : Text

namespace Medium

def plain : Medium where
  escape c := [c]
  opening _ := []
  closing _ := []
  ndash := ['–']

def htmlEscape (c : Char) : Text :=
  match c with
  | '&' => "&amp;".toList
  | '<' => "&lt;".toList
  | '>' => "&gt;".toList
  | '"' => "&quot;".toList
  | _ => [c]

def htmlOpening : Tag → Text
  | .bold => "<strong>".toList
  | .italic => "<em>".toList
  | .underline => "<span style=\"text-decoration: underline;\">".toList
  | .superscript => "<sup>".toList
  | .subscript => "<sub>".toList

def htmlClosing : Tag → Text
  | .bold => "</strong>".toList
  | .italic => "</em>".toList
  | .underline => "</span>".toList
  | .superscript => "</sup>".toList
  | .subscript => "</sub>".toList

def html : Medium where
  escape := htmlEscape
  opening := htmlOpening
  closing := htmlClosing
  ndash := "&ndash;".toList

-- The code units of a character in UTF-16.
def units (c : Char) : List Nat :=
  if c.toNat < 0x10000 then [c.toNat]
  else
    let offset := c.toNat - 0x10000
    [0xD800 + offset / 0x400, 0xDC00 + offset % 0x400]

-- RTF writes a code unit as a signed number of sixteen bits, followed by a
-- character for readers that do not know it.
def rtfUnit (unit : Nat) : Text :=
  let number := if unit < 0x8000 then ofNat unit else '-' :: ofNat (0x10000 - unit)
  ['\\', 'u'] ++ number ++ ['?']

def rtfEscape (c : Char) : Text :=
  if c = '\\' || c = '\x7b' || c = '\x7d' then ['\\', c]
  else if c.toNat < 0x80 then [c]
  else (units c).flatMap rtfUnit

def rtfOpening : Tag → Text
  | .bold => "\x7b\\b ".toList
  | .italic => "\x7b\\i ".toList
  | .underline => "\x7b\\ul ".toList
  | .superscript => "\x7b\\super ".toList
  | .subscript => "\x7b\\sub ".toList

def rtf : Medium where
  escape := rtfEscape
  opening := rtfOpening
  closing _ := ['\x7d']
  ndash := "\\endash ".toList

-- Neutral text is its own medium, for callers that export it themselves.
def raw : Medium where
  escape c := [c]
  opening tag := (Marker.mk tag false).spelling
  closing tag := (Marker.mk tag true).spelling
  ndash := dashMark

end Medium

end Referencing.Markup
