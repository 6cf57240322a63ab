import Referencing.Text.Basic
import Referencing.Text.Cased
import Referencing.Text.CaseMapping

namespace Referencing.Text

def upper (text : Text) : Text :=
  text.flatMap upperOf

-- Whether the nearest character that is not looked through has a case.
def meetsCased (characters : List Char) : Bool :=
  (characters.dropWhile isCaseIgnorable).head?.any isCased

-- A capital sigma ends its word when a cased character stands before it and
-- none after it; it is then written in its final form.
def lowerSigma (before after : List Char) : Char :=
  if meetsCased before && !meetsCased after then 'ς' else 'σ'

private def lowerFrom (before : List Char) : Text → Text
  | [] => []
  | c :: rest =>
    (if c = 'Σ' then [lowerSigma before rest] else lowerOf c) ++ lowerFrom (c :: before) rest

-- Lower case of a whole text, with the final form of sigma.
def lower (text : Text) : Text :=
  lowerFrom [] text

end Referencing.Text
