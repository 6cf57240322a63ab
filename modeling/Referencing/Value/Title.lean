import Referencing.Style.Values
import Referencing.Text.Alphabetic
import Referencing.Text.Blank
import Referencing.Text.LetterCase

namespace Referencing.Value

open Text

-- Braces keep what they enclose from a change of case, and are left out.
def opensBrace (c : Char) : Bool :=
  c = '\x7b'

def closesBrace (c : Char) : Bool :=
  c = '\x7d'

def withoutBraces (text : Text) : Text :=
  text.filter fun c => !opensBrace c && !closesBrace c

-- `depth` counts the open braces, `seen` tells whether a letter has been seen.
def sentenceCaseFrom (depth : Nat) (seen : Bool) : Text → Text
  | [] => []
  | c :: rest =>
    if opensBrace c then sentenceCaseFrom (depth + 1) seen rest
    else if closesBrace c then sentenceCaseFrom (depth - 1) seen rest
    else if 0 < depth then c :: sentenceCaseFrom depth (seen || isAlphabetic c) rest
    else if isAlphabetic c && !seen then upperOf c ++ sentenceCaseFrom depth true rest
    else lowerOf c ++ sentenceCaseFrom depth seen rest

-- Lower case outside braces, but for the first letter.
def sentenceCase (text : Text) : Text :=
  sentenceCaseFrom 0 false text

def applyCase (form : TitleCase) (text : Text) : Text :=
  match form with
  | .asEntered => withoutBraces text
  | .sentence => sentenceCase text

-- A title that ends in a mark of its own needs no colon before the subtitle.
def titleJoint (title : Text) : Text :=
  if title.getLast?.any (· ∈ ['?', '!', ':']) then [' '] else [':', ' ']

def layoutTitle (form : TitleCase) (title : Text) (subtitle : Option Text) : Text :=
  let main := applyCase form (trim title)
  match (subtitle.map trim).filter (· ≠ []) with
  | none => main
  | some subtitle => main ++ titleJoint main ++ applyCase form subtitle

end Referencing.Value
