import Referencing.Citation.Mention
import Referencing.Citation.Sentence
import Referencing.Citation.Source
import Referencing.Session

namespace Referencing.Citation

open Text Value

-- A citation with those that join it because nothing stands between them.
structure Group where
  first : Occurrence
  others : List Occurrence

def Group.occurrences (group : Group) : List Occurrence :=
  group.first :: group.others

-- An occurrence after blank text belongs to the group before it.
def groups : List Occurrence → List Group
  | [] => []
  | occurrence :: rest =>
    match groups rest with
    | [] => [⟨occurrence, []⟩]
    | next :: later =>
      if isBlankText next.first.textBefore then ⟨occurrence, next.occurrences⟩ :: later
      else ⟨occurrence, []⟩ :: next :: later

-- Who a citation is of: consecutive ones of the same creators are abbreviated.
def leadCreators (occurrence : Occurrence) (resource : Resource) : Option Text :=
  if occurrence.creatorIds ≠ [] then some occurrence.creatorIds
  else (resource.primaryCreators?.map CreatorList.key).filter (· ≠ [])

def leadSurname (resource : Resource) : Option Text :=
  (resource.primaryCreators?.bind (·.head?)).map (·.surname)

-- One printed citation of a group.
structure Member where
  text : Text
  lead : Option Text
  deriving DecidableEq, Repr

-- A locator put into the prose of a group after so many of its characters.
structure Splice where
  position : Nat
  text : Text
  deriving DecidableEq, Repr

-- What a group has come to so far.
structure GroupDraft where
  members : List Member := []
  splices : List Splice := []
  citations : List Cited := []
  unknown : List Text := []

-- The prose in which a group stands: what comes before its last sentence, that
-- sentence, and how much of the prose belongs to earlier groups.
structure Surroundings where
  earlier : Text
  sentence : Text
  passed : Nat

def surroundings (prose textBefore : Text) : Surroundings :=
  let (earlier, sentence) := cutLastSentence (prose ++ textBefore)
  ⟨earlier, sentence, prose.length⟩

-- Where the mention of a resource's first creator ends, counted from the
-- beginning of the prose.
def mentionEnd (around : Surroundings) (resource : Resource) : Option Nat :=
  ((leadSurname resource).bind (findMention around.sentence)).map fun mention =>
    around.earlier.length + mention.before.length + mention.text.length

-- Of the templates that apply the first one in this order that the style has.
def chooseInText (source : Source) (state : Disambiguation) (history : History)
    (occurrence : Occurrence) (resource : Resource) (consecutive mentioned : Bool) : Variant :=
  let templates := source.compiled.citation
  if source.usesAmbiguous state occurrence.id then .ambiguous
  else if templates.byType.contains (typeOf occurrence resource) then .typeReplacement
  else if consecutive && templates.consecutiveCreator.isSome then .consecutiveCreator
  else if mentioned && templates.followCreator.isSome then .followCreator
  else if history.wasCited occurrence.id && templates.subsequent.isSome then .subsequent
  else .base

-- Takes the locator out of a citation that follows the name of its creator, and
-- puts it after the name if that stands in the prose of the group itself.
def splitLocator (options : CitationOptions) (around : Surroundings) (variant : Variant)
    (mention : Option Nat) (prepared : Prepared) : Prepared × Option Splice :=
  if variant = .followCreator && options.followCreatorPageSplit then
    match mention.filter (around.passed ≤ ·), prepared.item.stored.get? "pages".toList with
    | some place, some pages =>
      (prepared.erase "pages",
        some ⟨place - around.passed, ' ' :: options.firstChars ++ pages ++ options.lastChars⟩)
    | _, _ => (prepared, none)
  else (prepared, none)

-- Cites one occurrence whose resource is known.
def citeInText (source : Source) (state : Disambiguation) (around : Surroundings)
    (history : History) (draft : GroupDraft) (occurrence : Occurrence) (resource : Resource) :
    GroupDraft :=
  let lead := leadCreators occurrence resource
  let mention := mentionEnd around resource
  let consecutive := lead.isSome && (draft.members.getLast?.bind (·.lead)) = lead
  let variant := chooseInText source state history occurrence resource consecutive mention.isSome
  let (prepared, splice) := splitLocator source.style.citation around variant mention
    (source.prepare state occurrence resource)
  let template := source.template variant (typeOf occurrence resource)
  let text := withAffixes occurrence (template.render prepared.item prepared.plurals)
  { draft with
    members := if isBlankText text then draft.members else draft.members ++ [⟨text, lead⟩]
    splices := draft.splices ++ splice.toList
    citations := draft.citations ++ [⟨occurrence.id, text, variant, none⟩] }

-- A citation of an unknown resource is only noted as such.
def citeMember (source : Source) (state : Disambiguation) (around : Surroundings)
    (progress : History × GroupDraft) (occurrence : Occurrence) : History × GroupDraft :=
  let (history, draft) := progress
  match source.library.get? occurrence.id with
  | none => (history, { draft with unknown := draft.unknown ++ [occurrence.id] })
  | some resource =>
    (history.record occurrence.id occurrence.pages?,
      citeInText source state around history draft occurrence resource)

def citeGroup (source : Source) (state : Disambiguation) (around : Surroundings)
    (progress : History × GroupDraft) (occurrences : List Occurrence) : History × GroupDraft :=
  occurrences.foldl (citeMember source state around) progress

-- What stands between two members of a group.
def separator (options : CitationOptions) (left right : Member) : Text :=
  if right.lead.isSome && right.lead = left.lead then options.creatorSeparator
  else options.citationSeparator

def joinMembers (options : CitationOptions) : List Member → Text
  | [] => []
  | [only] => only.text
  | left :: right :: rest =>
    left.text ++ separator options left right ++ joinMembers options (right :: rest)

-- The prose of a group with the locators put into it.
def interleave (passed : Nat) (prose : Text) : List Splice → List Stretch
  | [] => [.prose prose]
  | splice :: rest =>
    .prose (prose.take (splice.position - passed)) :: .markup splice.text ::
      interleave splice.position (prose.drop (splice.position - passed)) rest

def groupStretches (options : CitationOptions) (textBefore : Text) (draft : GroupDraft) :
    List Stretch :=
  let ordered := draft.splices.mergeSort fun left right => decide (left.position ≤ right.position)
  interleave 0 textBefore ordered ++
    (if draft.members = [] then []
      else [.markup (options.firstChars ++ joinMembers options draft.members ++ options.lastChars)])

-- Goes through the groups of a document. Only the prose is searched for
-- mentions, not the citations printed in it.
def draftGroups (source : Source) (state : Disambiguation) (prose : Text) (history : History)
    (draft : Draft) : List Group → History × Draft
  | [] => (history, draft)
  | group :: rest =>
    let textBefore := group.first.textBefore
    let (history, made) := citeGroup source state (surroundings prose textBefore) (history, {})
      group.occurrences
    draftGroups source state (prose ++ textBefore) history
      { draft with
        stretches := draft.stretches ++ groupStretches source.style.citation textBefore made
        citations := draft.citations ++ made.citations
        unknown := draft.unknown ++ made.unknown } rest

def draftInText (source : Source) (state : Disambiguation) (history : History)
    (document : Document) : History × Draft :=
  let (history, draft) := draftGroups source state [] history {} (groups document.citations)
  (history, { draft with stretches := draft.stretches ++ [.prose document.tail] })

end Referencing.Citation
