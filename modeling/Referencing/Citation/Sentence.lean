import Referencing.Text.Blank
import Referencing.Text.Basic

namespace Referencing.Citation

open Text

-- The end of "et al.", whose full stop does not end a sentence, read backwards.
private def etAlBackwards : Text :=
  "et al".toList.reverse

-- Whether a mark ends a sentence: white space follows, and "et al" does not come
-- before it.
def endsSentence (beforeBackwards : Text) (mark : Char) (after : Text) : Bool :=
  (mark = '.' || mark = '?' || mark = '!') && after.head?.any isBlank &&
    !etAlBackwards.isPrefixOf beforeBackwards

theorem endsSentence_iff {backwards after : Text} {mark : Char} :
    endsSentence backwards mark after ↔
      (mark = '.' ∨ mark = '?' ∨ mark = '!') ∧ after.head?.any isBlank ∧
        ¬"et al".toList.reverse <+: backwards := by
  simp [endsSentence, etAlBackwards, ← List.isPrefixOf_iff_prefix, and_assoc, or_assoc]

def lastSentenceFrom : (beforeBackwards after : Text) → Text × Text
  | [], after => ([], after)
  | c :: before, after =>
    if endsSentence before c after then ((c :: before).reverse, after)
    else lastSentenceFrom before (c :: after)

-- A text cut where its last sentence begins.
def cutLastSentence (prose : Text) : Text × Text :=
  lastSentenceFrom prose.reverse []

def sentenceStart (prose : Text) : Nat :=
  size (cutLastSentence prose).1

end Referencing.Citation
