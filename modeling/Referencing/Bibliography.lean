import Referencing.Citation.Source
import Referencing.Session

namespace Referencing.Bibliography

open Markup Value Citation

structure Entry where
  id : Text
  text : Text
  deriving DecidableEq, Repr

-- No template for a resource type, and none to fall back on.
structure NoTemplate where
  type : Text
  deriving DecidableEq, Repr

def NoTemplate.message (failure : NoTemplate) : Text :=
  "no bibliography template for resource type ".toList ++ failure.type

-- What is printed for creators who are also those of the entry before.
def repeatedText (bundle : Bundle) (text : Text) : Text :=
  match bundle.repeated with
  | .print => text
  | .replace => bundle.repeatText
  | .omit => []

-- Compares creators with those of the entry before, and remembers them. Only
-- entries of the bibliography take part.
def suppressRepeat (bundle : Bundle) (role : Role) (history : History) (creators : Creators) :
    History × Creators :=
  if !role.isBibliographic || creators.text = [] then (history, creators)
  else
    let text :=
      if history.lastCreators = some creators.text then repeatedText bundle creators.text
      else creators.text
    (history.setLastCreators creators.text, { creators with text := text })

-- An entry without creators ends a run of repetitions.
def suppressIn (style : Style) (history : History) (prepared : Prepared) : History × Prepared :=
  match prepared.item.get? "creator1".toList with
  | none => (history.resetCreators, prepared)
  | some text =>
    let bundle := style.bibliography.primary
    let (history, shown) := suppressRepeat bundle .primary history { text := text }
    (history, prepared.put "creator1" shown.text)

-- An entry in neutral text.
def draftEntry (source : Source) (session : Session) (resource : Resource) :
    Session × Except NoTemplate Text :=
  match source.compiled.bibliographyTemplate? resource.type with
  | none => (session, .error ⟨resource.type⟩)
  | some template =>
    let prepared := prepare source.style source.compiled .bibliography resource
    let (history, prepared) := suppressIn source.style session.history prepared
    let prepared := withLetter "year1" (session.disambiguation.letter? resource.id) prepared
    ({ session with history := history }, .ok (template.render prepared.item prepared.plurals))

def renderEntry (source : Source) (format : Format) (session : Session) (resource : Resource) :
    Session × Except NoTemplate Text :=
  let (session, entry) := draftEntry source session resource
  (session, entry.map format.export)

def renderFrom (source : Source) (format : Format) (session : Session) :
    List Resource → Session × List Entry
  | [] => (session, [])
  | resource :: rest =>
    let (session, entry) := renderEntry source format session resource
    let (session, entries) := renderFrom source format session rest
    match entry with
    | .ok text => (session, ⟨resource.id, text⟩ :: entries)
    | .error _ => (session, entries)

-- The entries of some resources; those without a template are left out.
def renderEntries (source : Source) (format : Format) (session : Session)
    (resources : List Resource) : Session × List Entry :=
  renderFrom source format { session with history := session.history.resetCreators } resources

-- A session without citations takes the letters of the whole library.
def disambiguated (source : Source) (session : Session) : Session :=
  if session.disambiguation.ambiguous.isEmpty && !session.history.hasCitations then
    { session with disambiguation := .ofLibrary source.library source.style.citation }
  else session

def render (source : Source) (format : Format) (session : Session) : Session × List Entry :=
  renderEntries source format (disambiguated source session) source.library.resources

end Referencing.Bibliography
