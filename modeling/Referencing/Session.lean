import Referencing.Citation.Disambiguation
import Referencing.Data.Dict

namespace Referencing

-- What has been printed and cited so far.
structure History where
  -- The creators of the last entry of the bibliography.
  lastCreators : Option Text := none
  -- The last citation and its locator.
  lastCitation : Option (Text × Option Text) := none
  cited : List Text := []
  -- The note numbers that resources keep.
  noteIds : Dict Nat := Dict.empty
  -- How many notes have been numbered one after the other.
  noteCount : Nat := 0
  deriving DecidableEq

namespace History

def setLastCreators (history : History) (creators : Text) : History :=
  { history with lastCreators := some creators }

def resetCreators (history : History) : History :=
  { history with lastCreators := none }

-- Whether the last citation is of this resource, and if so, with this locator.
def repeatsLast? (history : History) (id : Text) (pages : Option Text) : Option Bool :=
  history.lastCitation.bind fun (lastId, lastPages) =>
    if lastId = id then some (decide (lastPages = pages)) else none

def wasCited (history : History) (id : Text) : Bool :=
  history.cited.contains id

def hasCitations (history : History) : Bool :=
  !history.cited.isEmpty

def record (history : History) (id : Text) (pages : Option Text) : History :=
  { history with
    cited := if history.cited.contains id then history.cited else history.cited ++ [id]
    lastCitation := some (id, pages) }

-- After a citation of an unknown resource nothing is a repetition.
def clearLastCitation (history : History) : History :=
  { history with lastCitation := none }

-- Notes are counted from one.
def nextNote (history : History) : Nat × History :=
  (history.noteCount + 1, { history with noteCount := history.noteCount + 1 })

def noteId? (history : History) (id : Text) : Option Nat :=
  history.noteIds.get? id

-- The note number that a resource keeps, and whether it is new.
def noteIdFor (history : History) (id : Text) : (Nat × Bool) × History :=
  match history.noteId? id with
  | some number => ((number, false), history)
  | none =>
    let (number, history) := history.nextNote
    ((number, true), { history with noteIds := history.noteIds.insert id number })

def fixedNoteId (history : History) (id : Text) (number : Nat) : (Nat × Bool) × History :=
  match history.noteId? id with
  | some number => ((number, false), history)
  | none => ((number, true), { history with noteIds := history.noteIds.insert id number })

@[simp] theorem wasCited_empty (id : Text) : wasCited {} id = false := rfl

@[simp] theorem wasCited_record (history : History) (id other : Text) (pages : Option Text) :
    (history.record id pages).wasCited other = (decide (other = id) || history.wasCited other) := by
  simp only [wasCited, record]
  by_cases h : other = id
  · subst h
    split <;> simp_all
  · split <;> simp [h]

@[simp] theorem lastCitation_record (history : History) (id : Text) (pages : Option Text) :
    (history.record id pages).lastCitation = some (id, pages) := rfl

theorem noteIdFor_of_some {history : History} {id : Text} {number : Nat}
    (h : history.noteId? id = some number) :
    history.noteIdFor id = ((number, false), history) := by
  simp only [noteIdFor, h]

theorem noteIdFor_of_none {history : History} {id : Text} (h : history.noteId? id = none) :
    history.noteIdFor id =
      ((history.noteCount + 1, true),
        { history with
          noteIds := history.noteIds.insert id (history.noteCount + 1)
          noteCount := history.noteCount + 1 }) := by
  simp only [noteIdFor, h, nextNote]

theorem fixedNoteId_of_some {history : History} {id : Text} {number : Nat} (other : Nat)
    (h : history.noteId? id = some number) :
    history.fixedNoteId id other = ((number, false), history) := by
  simp only [fixedNoteId, h]

theorem fixedNoteId_of_none {history : History} {id : Text} (number : Nat)
    (h : history.noteId? id = none) :
    history.fixedNoteId id number =
      ((number, true), { history with noteIds := history.noteIds.insert id number }) := by
  simp only [fixedNoteId, h]

@[simp] theorem wasCited_noteIdFor (history : History) (id other : Text) :
    (history.noteIdFor id).2.wasCited other = history.wasCited other := by
  cases h : history.noteId? id with
  | none => rw [noteIdFor_of_none h]; rfl
  | some number => rw [noteIdFor_of_some h]

@[simp] theorem wasCited_fixedNoteId (history : History) (id other : Text) (number : Nat) :
    (history.fixedNoteId id number).2.wasCited other = history.wasCited other := by
  cases h : history.noteId? id with
  | none => rw [fixedNoteId_of_none _ h]; rfl
  | some kept => rw [fixedNoteId_of_some _ h]

@[simp] theorem wasCited_clearLastCitation (history : History) (id : Text) :
    history.clearLastCitation.wasCited id = history.wasCited id := rfl

@[simp] theorem lastCitation_clearLastCitation (history : History) :
    history.clearLastCitation.lastCitation = none := rfl

end History

-- What is carried from one rendering to the next.
structure Session where
  disambiguation : Disambiguation := {}
  history : History := {}
  deriving DecidableEq

namespace Session

-- At the boundary of a document everything is forgotten.
def newDocument (_ : Session) : Session := {}

def setDisambiguation (session : Session) (state : Disambiguation) : Session :=
  { session with disambiguation := state }

def withHistory (session : Session) (history : History) : Session :=
  { session with history := history }

end Session

end Referencing
