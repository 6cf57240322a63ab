import Referencing.Markup.Export

namespace Referencing.Citation

open Markup

-- With which template a resource is cited.
inductive Variant
  | base
  | ambiguous
  | typeReplacement
  | followCreator
  | consecutiveCreator
  | subsequent
  | ibid
  | idem
  | opCit
  deriving DecidableEq, Repr

def Variant.name : Variant → Text
  | .base => "Base".toList
  | .ambiguous => "Ambiguous".toList
  | .typeReplacement => "TypeReplacement".toList
  | .followCreator => "FollowCreator".toList
  | .consecutiveCreator => "ConsecutiveCreator".toList
  | .subsequent => "Subsequent".toList
  | .ibid => "Ibid".toList
  | .idem => "Idem".toList
  | .opCit => "OpCit".toList

-- A citation, or the note it points to.
structure Cited where
  id : Text
  text : Text
  variant : Variant
  note : Option Nat
  deriving DecidableEq, Repr

structure Note where
  number : Nat
  text : Text
  deriving DecidableEq, Repr

-- A stretch of a document: prose, which no medium changes, or text that is
-- exported.
inductive Stretch
  | prose (text : Text)
  | markup (text : Text)
  deriving DecidableEq, Repr

-- A document with its citations in neutral text.
structure Draft where
  stretches : List Stretch := []
  citations : List Cited := []
  notes : List Note := []
  unknown : List Text := []
  deriving DecidableEq, Repr

-- A document with its citations in some medium.
structure Output where
  text : Text
  citations : List Cited
  notes : List Note
  -- The ids of cited resources that the library does not have.
  unknown : List Text
  deriving DecidableEq, Repr

def Stretch.export (format : Format) : Stretch → Text
  | .prose text => text
  | .markup text => format.export text

def Draft.export (draft : Draft) (format : Format) : Output where
  text := draft.stretches.flatMap (Stretch.export format)
  citations := draft.citations.map fun cited => { cited with text := format.export cited.text }
  notes := draft.notes.map fun note => { note with text := format.export note.text }
  unknown := draft.unknown

-- What is reported about a citation of an unknown resource.
def unknownMessage (id : Text) : Text :=
  "citation refers to unknown resource ".toList ++ id

end Referencing.Citation
