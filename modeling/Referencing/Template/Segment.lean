import Referencing.Template.FieldSet
import Referencing.Template.Token
import Referencing.Text.Alphabetic

namespace Referencing.Template

open Text

-- A segment cut at the field it is about.
structure Located where
  before : Text
  name : Text
  after : Text
  deriving DecidableEq, Repr

-- A name that stands at a byte of a segment.
def Located.cut (segment : Text) (start : Nat) (name : Text) : Located where
  before := slice 0 start segment
  name := name
  after := slice (start + size name) (size segment) segment

-- A field name is not part of a longer word and does not touch a quotation.
def isBoundary (neighbour : Option Char) : Bool :=
  neighbour.all fun c => !isAlphabetic c && c ≠ tick

-- Whether a name stands at a byte of a segment, where the rest of a run of text begins.
def startsField (segment : Text) (start : Nat) (rest name : Text) : Bool :=
  name.isPrefixOf rest && isBoundary (Located.cut segment start name).before.getLast? &&
    isBoundary (Located.cut segment start name).after.head?

-- The leftmost field in a run of text that begins at a byte of a segment; of several
-- names that begin at one place the first one wins.
def locateInRun (names : List Text) (segment : Text) (start : Nat) : (run : Text) → Option Located
  | [] => none
  | c :: rest =>
    match names.find? (startsField segment start (c :: rest)) with
    | some name => some (.cut segment start name)
    | none => locateInRun names segment (start + c.utf8Size) rest

-- Fields are looked for in plain text only, not inside a marker or a quotation.
def locateInToken (names : List Text) (segment : Text) (token : Token) : Option Located :=
  match token.kind with
  | .text run => locateInRun names segment token.start run
  | _ => none

def locate (fields : FieldSet) (segment : Text) : Option Located :=
  (lex .segment segment).findSome? (locateInToken fields.names segment)

-- A segment without a field, remembered with the number of fields before it.
structure Independent where
  position : Nat
  text : Text
  -- What is printed when nothing that the text brackets is there.
  alternative : Option Text
  deriving DecidableEq, Repr

-- A segment that is one dependent marker gives its two texts.
def Independent.read (segment : Text) (position : Nat) : Independent :=
  match lex .affix segment with
  | [⟨.dependent primary alternative, _, _⟩] =>
    ⟨position, without tick primary, alternative.map (without tick)⟩
  | _ => ⟨position, without tick segment, none⟩

end Referencing.Template
