import Referencing.Record.Creator
import Referencing.Style.Creators
import Referencing.Text.Alphabetic
import Referencing.Text.Lowercase

namespace Referencing.Value

open Text

-- The particle and the rest of a surname. Without a particle of its own, words
-- in lower case at the beginning of the surname make one, but never the last
-- word.
def splitParticle (creator : Creator) : Option Text × Text :=
  let particle := trim creator.particle
  if particle ≠ [] then (some particle, trim creator.surname)
  else
    let parts := words creator.surname
    let particles := parts.dropLast.takeWhile fun word => word.head?.any isLowercase
    let rest := parts.drop particles.length
    (if particles = [] then none else some (join [' '] particles), join [' '] rest)

-- The initials of one given name: one for each hyphened part with a letter. A
-- letter may have an upper case of several letters.
abbrev InitialGroup := List Char

def groupOfWord (word : Text) : InitialGroup :=
  ((split '-' word).filterMap (·.find? isAlphabetic)).flatMap upperOf

def groupsOfGiven (given : Text) : List InitialGroup :=
  ((words given).map groupOfWord).filter (· ≠ [])

-- Initials that were entered as such are one group each.
def groupsOfInitials (initials : Text) : List InitialGroup :=
  (initials.filter isAlphabetic).map upperOf

-- What follows an initial, and what stands between groups.
def initialMarks : InitialsForm → Text × Text
  | .dottedSpaced => (['.'], [' '])
  | .dotted => (['.'], [])
  | .spaced => ([], [' '])
  | .compact => ([], [])

def layoutInitials (form : InitialsForm) (groups : List InitialGroup) : Text :=
  let (after, between) := initialMarks form
  join between (groups.map fun group => join ['-'] (group.map fun letter => letter :: after))

def givenNames (bundle : Bundle) (creator : Creator) : Text :=
  let given := trim creator.given
  let extra := groupsOfInitials creator.initials
  match bundle.given with
  | .full =>
    let initials := layoutInitials bundle.initials extra
    if given = [] then initials
    else if initials = [] then given
    else given ++ ' ' :: initials
  | .initial => layoutInitials bundle.initials (groupsOfGiven given ++ extra)

def familyName (bundle : Bundle) (creator : Creator) : Text :=
  let (particle, surname) := splitParticle creator
  let surname := if bundle.uppercase then upper surname else surname
  match particle with
  | some particle => particle ++ ' ' :: surname
  | none => surname

def layoutName (bundle : Bundle) (order : NameOrder) (creator : Creator) : Text :=
  let family := familyName bundle creator
  let given := givenNames bundle creator
  if given = [] then family
  else
    match order with
    | .firstLast => given ++ ' ' :: family
    | .lastCommaFirst => family ++ ',' :: ' ' :: given
    | .lastFirst => family ++ ' ' :: given
    | .lastOnly => family

end Referencing.Value
