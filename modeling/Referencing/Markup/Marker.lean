import Referencing.Text.Basic

namespace Referencing.Markup

open Text

inductive Tag
  | bold
  | italic
  | underline
  | superscript
  | subscript
  deriving DecidableEq, Repr

def Tag.all : List Tag :=
  [.bold, .italic, .underline, .superscript, .subscript]

def Tag.name : Tag → Text
  | .bold => ['b']
  | .italic => ['i']
  | .underline => ['u']
  | .superscript => ['s', 'u', 'p']
  | .subscript => ['s', 'u', 'b']

-- An inline marker in text that no medium has seen yet.
structure Marker where
  tag : Tag
  closing : Bool
  deriving DecidableEq, Repr

def Marker.all : List Marker :=
  Tag.all.flatMap fun tag => [⟨tag, false⟩, ⟨tag, true⟩]

def Marker.spelling (marker : Marker) : Text :=
  '[' :: (if marker.closing then ['/'] else []) ++ marker.tag.name ++ [']']

-- The marker at the beginning of a text. No spelling is the beginning of
-- another one, so there is at most one.
def Marker.parse? (text : Text) : Option Marker :=
  all.find? (·.spelling.isPrefixOf text)

-- The marker at the end of a text.
def Marker.parseEnd? (text : Text) : Option Marker :=
  all.find? (·.spelling.isSuffixOf text)

-- Stands for an en dash until a medium says how it writes one.
def dashMark : Text :=
  ['[', 'n', 'd', 'a', 's', 'h', ']']

theorem Marker.mem_all (marker : Marker) : marker ∈ all := by
  obtain ⟨tag, closing⟩ := marker
  cases tag <;> cases closing <;> decide

theorem Marker.spelling_ne_nil (marker : Marker) : marker.spelling ≠ [] := by
  simp [spelling]

theorem Marker.parse?_isPrefix {text : Text} {marker : Marker} (h : parse? text = some marker) :
    marker.spelling.isPrefixOf text := by
  simpa using List.find?_some h

theorem Marker.parseEnd?_isSuffix {text : Text} {marker : Marker}
    (h : parseEnd? text = some marker) : marker.spelling.isSuffixOf text := by
  simpa using List.find?_some h

end Referencing.Markup
