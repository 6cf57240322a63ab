import Referencing.Citation.InText
import Referencing.Citation.Source
import Referencing.Session

namespace Referencing.Citation

open Text Value Markup

-- A repetition of the last citation, with the same locator or another one, or
-- of an earlier one. Notes that are merely counted do not abbreviate.
def abbreviation? (source : Source) (history : History) (occurrence : Occurrence) :
    Option Variant :=
  let templates := source.compiled.citation
  if source.style.citation.endnoteStyle = .incrementing then none
  else
    match history.repeatsLast? occurrence.id occurrence.pages? with
    | some true => if templates.ibid.isSome then some .ibid else none
    | some false => if templates.idem.isSome then some .idem else none
    | none =>
      if history.wasCited occurrence.id && templates.opCit.isSome then some .opCit else none

-- A footnote template of the type has precedence over a citation template of
-- the type.
def chooseNote (source : Source) (state : Disambiguation) (history : History)
    (occurrence : Occurrence) (resource : Resource) : Variant :=
  let type := typeOf occurrence resource
  (abbreviation? source history occurrence).getD <|
    if source.usesAmbiguous state occurrence.id then .ambiguous
    else if (source.compiled.footnoteTemplate? type).isNone &&
        source.compiled.citation.byType.contains type then .typeReplacement
    else .base

def prepareFootnote (source : Source) (state : Disambiguation) (occurrence : Occurrence)
    (resource : Resource) : Prepared :=
  withLetter "year1" (state.letter? resource.id)
    (overlay source.style.citation.pageForm occurrence.values
      (prepare source.style source.compiled .footnote resource))

-- A base note uses the footnote template of the type if there is one.
def noteText (source : Source) (state : Disambiguation) (occurrence : Occurrence)
    (resource : Resource) (variant : Variant) : Text :=
  let type := typeOf occurrence resource
  let footnote := if variant = .base then source.compiled.footnoteTemplate? type else none
  match footnote with
  | some template =>
    let prepared := prepareFootnote source state occurrence resource
    template.render prepared.item prepared.plurals
  | none =>
    let prepared := source.prepare state occurrence resource
    (source.template variant type).render prepared.item prepared.plurals

-- The number of the note of a citation, and whether the note is new.
def numberNote (source : Source) (history : History) (id : Text) : (Nat × Bool) × History :=
  let options := source.style.citation
  match options.endnoteStyle, options.sameIdOrder with
  | .sameId, .firstCitation => history.noteIdFor id
  | .sameId, .bibliography =>
    history.fixedNoteId id ((source.library.position? id).elim 0 (· + 1))
  | _, _ =>
    let (number, history) := history.nextNote
    ((number, true), history)

-- What points to a note.
def noteMarker (options : NoteMarker) (number : Nat) : Text :=
  let text := options.firstChars ++ ofNat number ++ options.lastChars
  if options.superscript then "[sup]".toList ++ text ++ "[/sup]".toList else text

def citeNote (source : Source) (state : Disambiguation) (history : History) (draft : Draft)
    (occurrence : Occurrence) (resource : Resource) : History × Draft :=
  let variant := chooseNote source state history occurrence resource
  let ((number, isNew), history) := numberNote source history occurrence.id
  let text := withAffixes occurrence (noteText source state occurrence resource variant)
  (history.record occurrence.id occurrence.pages?,
    { draft with
      stretches := draft.stretches ++
        [.prose occurrence.textBefore,
          .markup (noteMarker source.style.citation.endnoteMarker number)]
      citations := draft.citations ++ [⟨occurrence.id, text, variant, some number⟩]
      notes := if isNew then draft.notes ++ [⟨number, text⟩] else draft.notes })

-- A citation of an unknown resource leaves its prose, and nothing that follows
-- repeats it.
def draftNote (source : Source) (state : Disambiguation) (progress : History × Draft)
    (occurrence : Occurrence) : History × Draft :=
  let (history, draft) := progress
  match source.library.get? occurrence.id with
  | none =>
    (history.clearLastCitation,
      { draft with
        stretches := draft.stretches ++ [.prose occurrence.textBefore]
        unknown := draft.unknown ++ [occurrence.id] })
  | some resource => citeNote source state history draft occurrence resource

def draftNotes (source : Source) (state : Disambiguation) (progress : History × Draft)
    (occurrences : List Occurrence) : History × Draft :=
  occurrences.foldl (draftNote source state) progress

def noteLine (note : Note) : List Stretch :=
  [.prose (ofNat note.number ++ ['.', ' ']), .markup note.text]

def noteLines : List Note → List Stretch
  | [] => []
  | [last] => noteLine last
  | note :: rest => noteLine note ++ .prose ['\n'] :: noteLines rest

-- The notes after the prose, in the order of their numbers.
def draftEndnotes (source : Source) (state : Disambiguation) (history : History)
    (document : Document) : History × Draft :=
  let (history, draft) := draftNotes source state (history, {}) document.citations
  let notes := draft.notes.mergeSort fun left right => decide (left.number ≤ right.number)
  let appended := if notes = [] then [] else .prose ['\n', '\n'] :: noteLines notes
  (history,
    { draft with
      stretches := draft.stretches ++ .prose document.tail :: appended
      notes := notes })

-- A document begins with nothing cited; the letters it needs stay in the session
-- for a bibliography that follows.
def draftDocument (source : Source) (document : Document) (session : Session) : Session × Draft :=
  let options := source.style.citation
  let state := Disambiguation.ofOccurrences source.library options document.citations
  let session := session.newDocument.setDisambiguation state
  let (history, draft) :=
    match options.mode with
    | .inText => draftInText source session.disambiguation session.history document
    | .endnote => draftEndnotes source session.disambiguation session.history document
  (session.withHistory history, draft)

def renderDocument (source : Source) (format : Format) (document : Document) (session : Session) :
    Session × Output :=
  let (session, draft) := draftDocument source document session
  (session, draft.export format)

end Referencing.Citation
