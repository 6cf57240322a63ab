import Referencing.Text.Blank
import Referencing.Text.WordCharacter

namespace Referencing.Citation

open Text

-- A sentence cut at the mention of a name.
structure Mention where
  before : Text
  text : Text
  after : Text
  deriving DecidableEq, Repr

-- A word begins or ends between two characters.
def isWordBoundary (left right : Option Char) : Bool :=
  left.any isWordCharacter != right.any isWordCharacter

def cutBlank? (text : Text) : Option (Text × Text) :=
  if text.head?.any isBlank then some (text.takeWhile isBlank, text.dropWhile isBlank) else none

def cutWord? (word text : Text) : Option Text :=
  if word.isPrefixOf text then some (text.drop word.length) else none

-- The "et al." that a text begins with.
def etAlAt (text : Text) : Text :=
  let found := do
    let (first, rest) ← cutBlank? text
    let rest ← cutWord? "et".toList rest
    let (second, rest) ← cutBlank? rest
    let _ ← cutWord? "al.".toList rest
    some (first ++ "et".toList ++ second ++ "al.".toList)
  found.getD []

-- The possessive ending that a text begins with, with either apostrophe.
def possessiveAt (text : Text) : Text :=
  let endings : List Text := [['\x27', 's'], ['\x27'], ['’', 's'], ['’']]
  (endings.find? (·.isPrefixOf text)).getD []

-- The mention of a name at the beginning of a text: the name as a whole word,
-- then "et al." and a possessive ending if they are there.
def mentionAt (name before text : Text) : Option Text :=
  let after := text.drop name.length
  if name.isPrefixOf text && isWordBoundary before.getLast? name.head? &&
      isWordBoundary name.getLast? after.head? then
    let tail := etAlAt after
    some (name ++ tail ++ possessiveAt (after.drop tail.length))
  else none

-- Goes through a text from left to right; `skip` characters still belong to the
-- mention found last.
def lastMentionFrom (name before : Text) (skip : Nat) (found : Option Mention) :
    Text → Option Mention
  | [] => found
  | c :: rest =>
    let before' := before ++ [c]
    match skip with
    | skip + 1 => lastMentionFrom name before' skip found rest
    | 0 =>
      match mentionAt name before (c :: rest) with
      | some mention =>
        lastMentionFrom name before' (mention.length - 1)
          (some ⟨before, mention, (c :: rest).drop mention.length⟩) rest
      | none => lastMentionFrom name before' 0 found rest

-- The last mention of a surname in a sentence.
def findMention (sentence surname : Text) : Option Mention :=
  let name := trim surname
  if name = [] then none else lastMentionFrom name [] 0 none sentence

end Referencing.Citation
