import Referencing.Proofs.Citation.Endnotes
import Referencing.Proofs.Citation.Locators

namespace Referencing.Citation

open Text Markup

variable {source : Source} {state : Disambiguation} {exporter : Text → Text}

def Output.blank : Output where
  text := []
  citations := []
  notes := []
  unknown := []

-- A document in the making, and its prose without the citations. Every text is
-- converted where it is made, and stands converted in the text of the document.
structure Writing where
  output : Output
  prose : Text
  -- What the group that is being written has come to; its locators are kept by
  -- their places in the prose.
  members : List Member := []
  splices : List Splice := []

def insertAt (position : Nat) (inserted text : Text) : Text :=
  text.take position ++ inserted ++ text.drop position

-- A locator with its place in all of the prose.
def Splice.write (exporter : Text → Text) (passed : Nat) (splice : Splice) : Splice :=
  ⟨passed + splice.position, exporter splice.text⟩

namespace Writing

def start : Writing where
  output := .blank
  prose := []

def beginGroup (writing : Writing) (textBefore : Text) : Writing where
  output := { writing.output with text := writing.output.text ++ textBefore }
  prose := writing.prose ++ textBefore

def refuse (writing : Writing) (id : Text) : Writing :=
  { writing with output := { writing.output with unknown := writing.output.unknown ++ [id] } }

def print (exporter : Text → Text) (passed : Nat) (writing : Writing) (printed : Printed) :
    Writing :=
  { writing with
    output :=
      { writing.output with
        citations := writing.output.citations ++ [printed.cited.convert exporter] }
    members := writing.members ++ printed.member?.toList
    splices := writing.splices ++ printed.splice.toList.map (Splice.write exporter passed) }

-- The locators are put in from the right to the left: both texts end with the
-- prose of the group, so that places in the prose are places in the text, moved on.
def endGroup (options : CitationOptions) (exporter : Text → Text) (writing : Writing) : Writing :=
  let shift := writing.output.text.length - writing.prose.length
  let text := (orderedSplices writing.splices).foldr
    (fun splice => insertAt (shift + splice.position) splice.text) writing.output.text
  let bracket :=
    if writing.members = [] then []
    else exporter (options.firstChars ++ joinMembers options writing.members ++ options.lastChars)
  { output := { writing.output with text := text ++ bracket }, prose := writing.prose }

end Writing

def writeMember (source : Source) (state : Disambiguation) (exporter : Text → Text)
    (around : Surroundings) (progress : History × Writing) (occurrence : Occurrence) :
    History × Writing :=
  let (history, writing) := progress
  match source.library.get? occurrence.id with
  | none => (history, writing.refuse occurrence.id)
  | some resource =>
    (history.record occurrence.id occurrence.pages?,
      writing.print exporter around.passed (printInText source state around history
        (writing.members.getLast?.bind (·.lead)) occurrence resource))

def writeGroup (source : Source) (state : Disambiguation) (exporter : Text → Text)
    (progress : History × Writing) (group : Group) : History × Writing :=
  let (history, writing) := progress
  let textBefore := group.first.textBefore
  let (history, writing) := group.occurrences.foldl
    (writeMember source state exporter (surroundings writing.prose textBefore))
    (history, writing.beginGroup textBefore)
  (history, writing.endGroup source.style.citation exporter)

def writeInText (source : Source) (state : Disambiguation) (exporter : Text → Text)
    (history : History) (document : Document) : History × Output :=
  let (history, writing) :=
    (groups document.citations).foldl (writeGroup source state exporter) (history, Writing.start)
  (history, { writing.output with text := writing.output.text ++ document.tail })

def writeNote (source : Source) (state : Disambiguation) (exporter : Text → Text)
    (progress : History × Output) (occurrence : Occurrence) : History × Output :=
  let (history, output) := progress
  let text := output.text ++ occurrence.textBefore
  match source.library.get? occurrence.id with
  | none =>
    (history.clearLastCitation,
      { output with text := text, unknown := output.unknown ++ [occurrence.id] })
  | some resource =>
    let variant := chooseNote source state history occurrence resource
    let ((number, isNew), history) := numberNote source history occurrence.id
    let note := exporter
      (withAffixes occurrence (noteText source state occurrence resource variant))
    (history.record occurrence.id occurrence.pages?,
      { output with
        text := text ++ exporter (noteMarker source.style.citation.endnoteMarker number)
        citations := output.citations ++ [⟨occurrence.id, note, variant, some number⟩]
        notes := if isNew then output.notes ++ [⟨number, note⟩] else output.notes })

def writeEndnotes (source : Source) (state : Disambiguation) (exporter : Text → Text)
    (history : History) (document : Document) : History × Output :=
  let (history, output) :=
    document.citations.foldl (writeNote source state exporter) (history, Output.blank)
  let notes := sortedNotes output.notes
  (history, { output with text := output.text ++ document.tail ++ notesText notes, notes := notes })

-- A document whose texts are converted while it is being written.
def writeDocument (source : Source) (exporter : Text → Text) (document : Document)
    (session : Session) : Session × Output :=
  let session := session.newDocument.setDisambiguation (source.disambiguation document)
  let (history, output) :=
    match source.style.citation.mode with
    | .inText => writeInText source session.disambiguation exporter session.history document
    | .endnote => writeEndnotes source session.disambiguation exporter session.history document
  (session.withHistory history, output)

section Groups

variable {around : Surroundings}

-- What a group has come to, as it is written after what was there when it began.
def GroupDraft.write (exporter : Text → Text) (passed : Nat) (begun : Writing)
    (draft : GroupDraft) : Writing :=
  { begun with
    output :=
      { begun.output with
        citations := begun.output.citations ++ draft.citations.map (Cited.convert exporter)
        unknown := begun.output.unknown ++ draft.unknown }
    members := draft.members
    splices := draft.splices.map (Splice.write exporter passed) }

theorem GroupDraft.write_print (passed : Nat) (begun : Writing) (draft : GroupDraft)
    (printed : Printed) :
    (draft.print printed).write exporter passed begun =
      (draft.write exporter passed begun).print exporter passed printed := by
  simp [GroupDraft.write, GroupDraft.print, Writing.print]

theorem writeMember_eq (begun : Writing) (progress : History × GroupDraft)
    (occurrence : Occurrence) :
    writeMember source state exporter around
        (progress.map id (GroupDraft.write exporter around.passed begun)) occurrence =
      (citeMember source state around progress occurrence).map id
        (GroupDraft.write exporter around.passed begun) := by
  obtain ⟨history, draft⟩ := progress
  cases h : source.library.get? occurrence.id with
  | none => simp [writeMember, citeMember, h, Writing.refuse, GroupDraft.write]
  | some resource =>
    simp only [writeMember, citeMember, h, citeInText_eq, Prod.map, GroupDraft.write_print]
    rfl

theorem foldl_writeMember (history : History) (writing : Writing) (textBefore : Text)
    (occurrences : List Occurrence) :
    occurrences.foldl (writeMember source state exporter around)
        (history, writing.beginGroup textBefore) =
      (citeGroup source state around (history, {}) occurrences).map id
        (GroupDraft.write exporter around.passed (writing.beginGroup textBefore)) := by
  have hstart : (history, writing.beginGroup textBefore) = Prod.map id
      (GroupDraft.write exporter around.passed (writing.beginGroup textBefore)) (history, {}) := by
    simp [GroupDraft.write, Writing.beginGroup]
  rw [citeGroup, ← List.foldl_hom (Prod.map id _) (writeMember_eq _), ← hstart]

-- A mention is in the prose in which it was looked for.
theorem mentionEnd_le {prose textBefore : Text} {resource : Resource} {place : Nat}
    (h : mentionEnd (surroundings prose textBefore) resource = some place) :
    place ≤ prose.length + textBefore.length := by
  obtain ⟨surname, mention, -, hmention, rfl⟩ := mentionEnd_eq_some h
  have hsentence := congrArg List.length (cuts_of_findMention hmention).2.1
  have hwhole := congrArg List.length (append_cutLastSentence (prose ++ textBefore))
  simp only [surroundings, List.length_append] at hsentence hwhole ⊢
  omega

theorem position_le_of_mem_citeGroup (source : Source) (state : Disambiguation)
    (prose textBefore : Text) (history : History) (occurrences : List Occurrence) :
    ∀ splice ∈ (citeGroup source state (surroundings prose textBefore) (history, {})
      occurrences).2.splices, splice.position ≤ textBefore.length := by
  induction occurrences using List.reverseRecOn with
  | nil => simp [citeGroup]
  | append_singleton occurrences occurrence ih =>
    rw [citeGroup_concat]
    generalize citeGroup source state (surroundings prose textBefore) (history, {}) occurrences =
      progress at ih ⊢
    cases h : source.library.get? occurrence.id with
    | none => simpa only [citeMember, h] using ih
    | some resource =>
      simp only [citeMember, h, citeInText_eq, GroupDraft.print, List.mem_append,
        Option.mem_toList]
      rintro splice (hmem | hsplice)
      · exact ih splice hmem
      · obtain ⟨place, hplace, -, hposition⟩ := (moves_printInText hsplice).position
        have hle := mentionEnd_le hplace
        rw [hposition]
        simp only [surroundings]
        omega

-- Locators that are put in from the right to the left stand where the prose is cut
-- for them from the left to the right.
theorem foldr_insertAt {passed : Nat} {prose : Text} {splices : List Splice} (start : Nat)
    (hsorted : splices.Pairwise fun left right => left.position ≤ right.position)
    (hpassed : ∀ splice ∈ splices, passed ≤ splice.position)
    (hprose : ∀ splice ∈ splices, splice.position ≤ passed + prose.length)
    (before : Text) (hbefore : before.length = start + passed) :
    splices.foldr (fun splice => insertAt (start + splice.position) (exporter splice.text))
        (before ++ prose) =
      before ++ (interleave passed prose splices).flatMap (Stretch.convert exporter) := by
  induction splices generalizing passed prose before with
  | nil => simp [interleave, Stretch.convert]
  | cons splice rest ih =>
    obtain ⟨hle, hsorted⟩ := List.pairwise_cons.1 hsorted
    have hfrom := hpassed splice List.mem_cons_self
    have hto := hprose splice List.mem_cons_self
    have hreached : (before ++ prose.take (splice.position - passed)).length =
        start + splice.position := by
      rw [List.length_append, List.length_take]
      omega
    have hrest : ∀ other ∈ rest, other.position ≤
        splice.position + (prose.drop (splice.position - passed)).length := by
      intro other hother
      have hother := hprose other (List.mem_cons_of_mem _ hother)
      rw [List.length_drop]
      omega
    have hright := ih hsorted hle hrest (before ++ prose.take (splice.position - passed)) hreached
    rw [List.append_assoc, List.take_append_drop] at hright
    rw [List.foldr_cons, hright, insertAt, ← hreached, List.take_left, List.drop_left]
    simp [interleave, Stretch.convert]

-- Putting in locators leaves the prose where it is.
theorem sublist_interleave (exporter : Text → Text) (passed : Nat) (prose : Text)
    (splices : List Splice) :
    prose.Sublist ((interleave passed prose splices).flatMap (Stretch.convert exporter)) := by
  induction splices generalizing passed prose with
  | nil => simp [interleave, Stretch.convert]
  | cons splice rest ih =>
    have hdrop := ih splice.position (prose.drop (splice.position - passed))
    rw [interleave, List.flatMap_cons, List.flatMap_cons]
    calc prose
        = prose.take (splice.position - passed) ++ prose.drop (splice.position - passed) :=
          (List.take_append_drop _ _).symm
      List.Sublist _ (_ ++ (_ ++ _)) :=
        (List.Sublist.refl _).append (hdrop.trans (List.sublist_append_right _ _))

theorem orderedSplices_map (passed : Nat) (splices : List Splice) :
    orderedSplices (splices.map (Splice.write exporter passed)) =
      (orderedSplices splices).map (Splice.write exporter passed) := by
  refine (List.map_mergeSort fun left _ right _ => ?_).symm
  simp [Splice.write]

-- A draft with one group more.
def Draft.group (options : CitationOptions) (textBefore : Text) (draft : Draft)
    (made : GroupDraft) : Draft :=
  { draft with
    stretches := draft.stretches ++ groupStretches options textBefore made
    citations := draft.citations ++ made.citations
    unknown := draft.unknown ++ made.unknown }

-- A document in the making whose texts have been drafted first.
def Writing.ofDraft (exporter : Text → Text) (prose : Text) (draft : Draft) : Writing where
  output := draft.convert exporter
  prose := prose

theorem text_beginGroup_endGroup {prose textBefore : Text} {text : Text} {splices : List Splice}
    (hprose : prose.Sublist text)
    (hplaces : ∀ splice ∈ splices, splice.position ≤ textBefore.length) :
    (orderedSplices (splices.map (Splice.write exporter prose.length))).foldr
        (fun splice => insertAt
          ((text ++ textBefore).length - (prose ++ textBefore).length + splice.position)
          splice.text) (text ++ textBefore) =
      text ++ (interleave 0 textBefore (orderedSplices splices)).flatMap
        (Stretch.convert exporter) := by
  have hlength := hprose.length_le
  have hshift (position : Nat) :
      (text ++ textBefore).length - (prose ++ textBefore).length + (prose.length + position) =
        text.length + position := by
    simp only [List.length_append]
    omega
  rw [orderedSplices_map, List.foldr_map]
  simp only [Splice.write, hshift]
  refine foldr_insertAt _ (pairwise_mergeSort_key Splice.position _) (fun _ _ => Nat.zero_le _)
    (fun splice hsplice => ?_) _ rfl
  have hle := hplaces splice (List.mem_mergeSort.1 hsplice)
  omega

theorem convert_group (options : CitationOptions) (textBefore : Text) (draft : Draft)
    (made : GroupDraft) :
    (draft.group options textBefore made).convert exporter =
      { draft.convert exporter with
        text := (draft.convert exporter).text ++
          (interleave 0 textBefore (orderedSplices made.splices)).flatMap
            (Stretch.convert exporter) ++
          if made.members = [] then []
          else exporter
            (options.firstChars ++ joinMembers options made.members ++ options.lastChars)
        citations := (draft.convert exporter).citations ++
          made.citations.map (Cited.convert exporter)
        unknown := (draft.convert exporter).unknown ++ made.unknown } := by
  by_cases hmembers : made.members = [] <;>
    simp [Draft.convert, Draft.group, groupStretches, orderedSplices, hmembers, Stretch.convert]

theorem endGroup_write (options : CitationOptions) {prose textBefore : Text} {draft : Draft}
    {made : GroupDraft} (hprose : prose.Sublist (draft.convert exporter).text)
    (hplaces : ∀ splice ∈ made.splices, splice.position ≤ textBefore.length) :
    (made.write exporter prose.length
        ((Writing.ofDraft exporter prose draft).beginGroup textBefore)).endGroup options exporter =
      .ofDraft exporter (prose ++ textBefore) (draft.group options textBefore made) := by
  have htext := @text_beginGroup_endGroup exporter _ _ _ _ hprose hplaces
  show _ = Writing.mk _ _ [] []
  rw [convert_group, ← htext]
  rfl

theorem sublist_convert_group (options : CitationOptions) {prose : Text} (textBefore : Text)
    {draft : Draft} (made : GroupDraft) (hprose : prose.Sublist (draft.convert exporter).text) :
    (prose ++ textBefore).Sublist
      ((draft.group options textBefore made).convert exporter).text := by
  rw [convert_group]
  have hgroup := hprose.append
    (sublist_interleave exporter 0 textBefore (orderedSplices made.splices))
  exact hgroup.trans (List.sublist_append_left _ _)

-- Group after group the document comes out as if it had been drafted first: its
-- prose is always within its text, so that no place lies before its beginning.
theorem foldl_writeGroup {prose : Text} (history : History) {draft : Draft}
    (hprose : prose.Sublist (draft.convert exporter).text) (remaining : List Group) :
    remaining.foldl (writeGroup source state exporter)
        (history, Writing.ofDraft exporter prose draft) =
      (draftGroups source state prose history draft remaining).map id
        (Writing.ofDraft exporter (prose ++ remaining.flatMap (·.first.textBefore))) := by
  induction remaining generalizing prose history draft with
  | nil => simp [draftGroups]
  | cons group rest ih =>
    rcases hmade : citeGroup source state (surroundings prose group.first.textBefore)
      (history, {}) group.occurrences with ⟨next, made⟩
    have hplaces := position_le_of_mem_citeGroup source state prose group.first.textBefore history
      group.occurrences
    rw [hmade] at hplaces
    have hwritten : writeGroup source state exporter
        (history, Writing.ofDraft exporter prose draft) group =
          (next, Writing.ofDraft exporter (prose ++ group.first.textBefore)
            (draft.group source.style.citation group.first.textBefore made)) := by
      rw [writeGroup, foldl_writeMember, Writing.ofDraft, hmade]
      exact congrArg (Prod.mk next) (endGroup_write _ hprose hplaces)
    rw [List.foldl_cons, hwritten,
      ih next (sublist_convert_group _ group.first.textBefore made hprose)]
    simp only [draftGroups, hmade, List.flatMap_cons, List.append_assoc]
    rfl

theorem writeInText_eq (history : History) (document : Document) :
    writeInText source state exporter history document =
      (draftInText source state history document).map id (Draft.convert exporter) := by
  have hrun := @foldl_writeGroup source state exporter [] history {} (List.Sublist.refl _)
    (groups document.citations)
  have hstart : Writing.start = Writing.ofDraft exporter [] {} := rfl
  rw [writeInText, hstart, hrun]
  simp [draftInText, Writing.ofDraft, Draft.convert, Stretch.convert]

end Groups

section Notes

theorem writeNote_eq (progress : History × Draft) (occurrence : Occurrence) :
    writeNote source state exporter (progress.map id (Draft.convert exporter)) occurrence =
      (draftNote source state progress occurrence).map id (Draft.convert exporter) := by
  obtain ⟨history, draft⟩ := progress
  cases h : source.library.get? occurrence.id with
  | none =>
    rw [draftNote_of_not_get? _ h]
    simp [writeNote, h, Draft.pass, Draft.convert, Stretch.convert]
  | some resource =>
    rcases hnumber : numberNote source history occurrence.id with ⟨⟨number, isNew⟩, next⟩
    rw [draftNote_of_get? _ h, citeNote_eq _ _ _ _ (congrArg Prod.fst hnumber)]
    cases isNew <;>
      simp [writeNote, h, hnumber, Draft.note, citedNote, markedStretches, Draft.convert,
        Stretch.convert, Cited.convert, Note.convert]

theorem sortedNotes_map (notes : List Note) :
    sortedNotes (notes.map (Note.convert exporter)) =
      (sortedNotes notes).map (Note.convert exporter) := by
  refine (List.map_mergeSort fun left _ right _ => ?_).symm
  rfl

theorem convert_finish (draft : Draft) (document : Document) :
    (draft.finish document).convert exporter =
      { draft.convert exporter with
        text := (draft.convert exporter).text ++ document.tail ++
          notesText (sortedNotes (draft.convert exporter).notes)
        notes := sortedNotes (draft.convert exporter).notes } := by
  have hnotes : sortedNotes (draft.convert exporter).notes =
      (sortedNotes draft.notes).map (Note.convert exporter) := sortedNotes_map _
  rw [hnotes]
  by_cases h : sortedNotes draft.notes = [] <;>
    simp [Draft.convert, Draft.finish, h, Stretch.convert, notesText, convert_noteLines, ofNat]

theorem writeEndnotes_eq (document : Document) :
    writeEndnotes source state exporter {} document =
      (draftEndnotes source state {} document).map id (Draft.convert exporter) := by
  have hrun : document.citations.foldl (writeNote source state exporter) ({}, Output.blank) =
      (notesAfter source state document.citations).map id (Draft.convert exporter) := by
    have hblank : (({} : History), Output.blank) =
        Prod.map id (Draft.convert exporter) ({}, {}) := rfl
    rw [hblank, List.foldl_hom _ writeNote_eq]
    rfl
  show _ = ((notesAfter source state document.citations).1,
    ((notesAfter source state document.citations).2.finish document).convert exporter)
  rw [writeEndnotes, hrun, convert_finish]
  rfl

end Notes

-- Converting the texts of a document where they are made is converting them after
-- all of it has been drafted.
theorem writeDocument_eq (source : Source) (exporter : Text → Text) (document : Document)
    (session : Session) :
    writeDocument source exporter document session =
      (draftDocument source document session).map id (Draft.convert exporter) := by
  have hhistory : (session.newDocument.setDisambiguation (source.disambiguation document)).history =
      {} := rfl
  cases hmode : source.style.citation.mode with
  | inText =>
    simp only [writeDocument, draftDocument, hmode, hhistory, writeInText_eq]
    rfl
  | endnote =>
    simp only [writeDocument, draftDocument, hmode, hhistory, writeEndnotes_eq]
    rfl

theorem renderDocument_eq_writeDocument (source : Source) (format : Format) (document : Document)
    (session : Session) :
    renderDocument source format document session =
      writeDocument source format.export document session := by
  rw [writeDocument_eq, renderDocument]
  simp only [Draft.export_eq_convert]
  rfl

-- Two outputs that differ in their texts at most.
structure Output.Agrees (left right : Output) : Prop where
  citations : left.citations.map (fun cited => (cited.id, cited.variant, cited.note)) =
    right.citations.map fun cited => (cited.id, cited.variant, cited.note)
  notes : left.notes.map (·.number) = right.notes.map (·.number)
  unknown : left.unknown = right.unknown

-- An output whose texts are those of another one, exported.
structure Output.Converts (exporter : Text → Text) (output raw : Output) : Prop where
  citations : output.citations = raw.citations.map (Cited.convert exporter)
  notes : output.notes = raw.notes.map (Note.convert exporter)
  unknown : output.unknown = raw.unknown

theorem Output.Converts.agrees {left right : Text → Text} {first second raw : Output}
    (hleft : first.Converts left raw) (hright : second.Converts right raw) :
    first.Agrees second where
  citations := by
    rw [hleft.citations, hright.citations, List.map_map, List.map_map]
    rfl
  notes := by
    rw [hleft.notes, hright.notes, List.map_map, List.map_map]
    rfl
  unknown := hleft.unknown.trans hright.unknown.symm

theorem converts_writeDocument (source : Source) (exporter : Text → Text) (document : Document)
    (session : Session) :
    (writeDocument source exporter document session).2.Converts exporter
      (renderDocument source .raw document session).2 := by
  rw [writeDocument_eq, renderDocument_eq_writeDocument, writeDocument_eq]
  constructor
  case citations => simp [Draft.convert, Cited.convert, Format.export]
  case notes => simp [Draft.convert, Note.convert, Format.export]
  case unknown => rfl

end Referencing.Citation
