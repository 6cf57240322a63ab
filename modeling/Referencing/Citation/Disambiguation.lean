import Referencing.Record.Document
import Referencing.Record.Library
import Referencing.Style.Citation
import Referencing.Text.Basic

namespace Referencing.Citation

-- The letter of a digit from zero to twenty-five.
def letterOf (digit : Nat) : Char :=
  Char.ofNat ('a'.toNat + digit)

-- Numbers written with the digits a to z for one to twenty-six, without a zero:
-- z is followed by aa.
def letters : Nat → Text
  | 0 => []
  | n + 1 => letters (n / 26) ++ [letterOf (n % 26)]
termination_by n => n
decreasing_by exact Nat.lt_succ_of_le (Nat.div_le_self n 26)

-- One pass of the loop that finds them: the last letter of the number that is left is put
-- behind those found before it.
def findLetter : Nat × Text → Nat × Text
  | (0, found) => (0, found)
  | (number + 1, found) => (number / 26, found ++ [letterOf (number % 26)])

-- Zero has no letters.
def letters? (n : Nat) : Option Text :=
  if n = 0 then none else some (letters n)

end Referencing.Citation

namespace Referencing

-- What tells apart the works of the same creators and year: a letter for the
-- year, or only the fact that there are several.
structure Disambiguation where
  letters : Dict Text := Dict.empty
  ambiguous : List Text := []
  deriving DecidableEq

namespace Disambiguation

open Text Citation

def letter? (state : Disambiguation) (id : Text) : Option Text :=
  state.letters.get? id

def isAmbiguous (state : Disambiguation) (id : Text) : Bool :=
  state.ambiguous.contains id

-- Creators and year, and if the style says so the title. A resource without
-- creators has none; an occurrence may name the creators itself.
def identity? (options : CitationOptions) (creatorIds : Text) (resource : Resource) :
    Option Text :=
  let creators :=
    if creatorIds = [] then (resource.primaryCreators?.map CreatorList.key).getD [] else creatorIds
  if creators = [] then none
  else
    let title :=
      if options.ambiguityIncludesTitle then '|' :: lower (resource.title?.getD []) else []
    some (creators ++ '|' :: resource.year?.getD [] ++ title)

-- The resources that were given an identity, in the order of their first citation
-- or else of the library.
abbrev Groups := Dict (List Text)

-- A resource that is cited again is in its group already.
def addTo (groups : Groups) (identity id : Text) : Groups :=
  let ids := (groups.get? identity).getD []
  groups.insert identity (if ids.contains id then ids else ids ++ [id])

def addOccurrence (library : Library) (options : CitationOptions) (groups : Groups)
    (occurrence : Occurrence) : Groups :=
  match (library.get? occurrence.id).bind (identity? options occurrence.creatorIds) with
  | some identity => addTo groups identity occurrence.id
  | none => groups

-- A library has each resource once, so it is not looked for in its group.
def addResource (options : CitationOptions) (groups : Groups) (resource : Resource) : Groups :=
  match identity? options [] resource with
  | some identity =>
    let ids := (groups.get? identity).getD []
    groups.insert identity (ids ++ [resource.id])
  | none => groups

def mark (options : CitationOptions) (state : Disambiguation) (id : Text) (rank : Nat) :
    Disambiguation :=
  { letters :=
      match options.ambiguity, letters? rank with
      | .yearLetter, some letter => state.letters.insert id letter
      | _, _ => state.letters
    ambiguous := if state.ambiguous.contains id then state.ambiguous else state.ambiguous ++ [id] }

def markGroup (options : CitationOptions) (state : Disambiguation) (ids : List Text) :
    Disambiguation :=
  if ids.length ≤ 1 then state
  else ids.zipIdx.foldl (fun state (id, index) => mark options state id (index + 1)) state

-- Groups of more than one resource are ambiguous.
def ofGroups (options : CitationOptions) (groups : Groups) : Disambiguation :=
  groups.entries.foldl (fun state (_, ids) => markGroup options state ids) {}

def ofOccurrences (library : Library) (options : CitationOptions) (occurrences : List Occurrence) :
    Disambiguation :=
  ofGroups options (occurrences.foldl (addOccurrence library options) Dict.empty)

def ofLibrary (library : Library) (options : CitationOptions) : Disambiguation :=
  ofGroups options (library.resources.foldl (addResource options) Dict.empty)

end Disambiguation

end Referencing
