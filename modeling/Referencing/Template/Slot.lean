import Referencing.Markup.Visible
import Referencing.Record.Item
import Referencing.Template.Compiled

namespace Referencing.Template

open Text Markup

def isPunctuation (c : Char) : Bool :=
  c ∈ ['.', ',', ';', ':', '?', '!']

def isTerminal (c : Char) : Bool :=
  c ∈ ['.', '?', '!']

-- Whether punctuation is idle after what was printed last: it repeats it, or it
-- is a full stop after a question or exclamation mark.
def isIdle (last next : Char) : Bool :=
  (isPunctuation last && next = last) || ((last = '?' || last = '!') && next = '.')

-- Leaves out the first visible character if it is idle after `last`.
def dropIdle (last : Option Char) (text : Text) : Text :=
  match last, cutLeading text with
  | some last, (markers, c :: rest) => if isIdle last c then markers ++ rest else text
  | _, _ => text

-- A value does not repeat the punctuation mark that stands before it.
def dropRepeated (last : Option Char) (value : Text) : Text :=
  match last, value with
  | some last, c :: rest => if isPunctuation last && c = last then rest else value
  | _, _ => value

-- What is printed for one field: its affixes with the markers resolved, and its
-- value.
structure Slot where
  pre : Text
  value : Text
  post : Text
  deriving DecidableEq, Repr

def Slot.text (slot : Slot) : Text :=
  slot.pre ++ slot.value ++ slot.post

-- A field before any clean-up.
def Slot.ofSpec (spec : FieldSpec) (previous next plural : Bool) (value : Text) : Slot where
  pre := spec.resolve .pre previous plural
  value := value
  post := spec.resolve .post next plural

-- Takes away punctuation that is idle after the text printed before the slot,
-- after its own affix, and after its own value.
def Slot.tidy (previous : Option Text) (slot : Slot) : Slot :=
  let last := previous.bind lastVisible
  let pre := dropIdle last slot.pre
  let value := dropRepeated (if pre = [] then last else lastVisible pre) slot.value
  let post := dropIdle ((lastVisible value).filter isTerminal) slot.post
  ⟨pre, value, post⟩

-- The slots of a template, one for each field; a field without value has none.
-- `previous` is the text of the last slot before, `adjacent` tells whether it is
-- that of the field just before.
def slotsFrom (item : Item) (plurals : Plurals) (previous : Option Text) (adjacent : Bool) :
    List (Text × FieldSpec) → List (Option Slot)
  | [] => []
  | (name, spec) :: rest =>
    match item.get? name with
    | none => none :: slotsFrom item plurals previous false rest
    | some value =>
      let next := rest.head?.any (item.has ·.1)
      let slot := (Slot.ofSpec spec adjacent next (plurals.isPlural name) value).tidy previous
      some slot :: slotsFrom item plurals (some slot.text) true rest

def slots (template : Template) (item : Item) (plurals : Plurals) : List (Option Slot) :=
  slotsFrom item plurals none false template.fields.entries

end Referencing.Template
