import Mathlib.Data.List.Induction
import Referencing.Citation.Document
import Referencing.Proofs.Citation.Known

namespace Referencing.Citation

variable {source : Source} {state : Disambiguation}

-- What a document of notes has come to after some of its occurrences.
def notesAfter (source : Source) (state : Disambiguation) (occurrences : List Occurrence) :
    History × Draft :=
  draftNotes source state ({}, {}) occurrences

-- The draft once the prose before a citation of an unknown resource is written.
def Draft.pass (draft : Draft) (occurrence : Occurrence) : Draft :=
  { draft with
    stretches := draft.stretches ++ [.prose occurrence.textBefore]
    unknown := draft.unknown ++ [occurrence.id] }

-- The prose before an occurrence, and what points to its note if it has one.
def markedStretches (source : Source) (occurrence : Occurrence) (number : Option Nat) :
    List Stretch :=
  .prose occurrence.textBefore :: (number.map fun number =>
    Stretch.markup (noteMarker source.style.citation.endnoteMarker number)).toList

-- A citation as it stands in its note.
def citedNote (source : Source) (state : Disambiguation) (history : History)
    (occurrence : Occurrence) (resource : Resource) (number : Nat) : Cited :=
  let variant := chooseNote source state history occurrence resource
  ⟨occurrence.id, withAffixes occurrence (noteText source state occurrence resource variant),
    variant, some number⟩

-- The draft with one citation more. Only a new note is collated.
def Draft.note (source : Source) (draft : Draft) (occurrence : Occurrence) (cited : Cited)
    (number : Nat) (isNew : Bool) : Draft :=
  { draft with
    stretches := draft.stretches ++ markedStretches source occurrence (some number)
    citations := draft.citations ++ [cited]
    notes := if isNew then draft.notes ++ [⟨number, cited.text⟩] else draft.notes }

@[simp] theorem Draft.citations_pass (draft : Draft) (occurrence : Occurrence) :
    (draft.pass occurrence).citations = draft.citations := rfl

@[simp] theorem Draft.stretches_pass (draft : Draft) (occurrence : Occurrence) :
    (draft.pass occurrence).stretches = draft.stretches ++ [.prose occurrence.textBefore] := rfl

section DraftNote

variable (draft : Draft) (occurrence : Occurrence) (cited : Cited) (number : Nat) (isNew : Bool)

@[simp] theorem Draft.citations_note :
    (draft.note source occurrence cited number isNew).citations = draft.citations ++ [cited] := rfl

@[simp] theorem Draft.stretches_note :
    (draft.note source occurrence cited number isNew).stretches =
      draft.stretches ++ markedStretches source occurrence (some number) := rfl

end DraftNote

theorem citeNote_eq (history : History) (draft : Draft) (occurrence : Occurrence)
    (resource : Resource) {number : Nat} {isNew : Bool}
    (h : (numberNote source history occurrence.id).1 = (number, isNew)) :
    citeNote source state history draft occurrence resource =
      ((numberNote source history occurrence.id).2.record occurrence.id occurrence.pages?,
        draft.note source occurrence
          (citedNote source state history occurrence resource number) number isNew) := by
  rcases hnumber : numberNote source history occurrence.id with ⟨⟨found, fresh⟩, next⟩
  rw [hnumber] at h
  simp only [Prod.mk.injEq] at h
  obtain ⟨rfl, rfl⟩ := h
  simp only [citeNote, hnumber]
  rfl

theorem notesAfter_concat (occurrences : List Occurrence) (occurrence : Occurrence) :
    notesAfter source state (occurrences ++ [occurrence]) =
      draftNote source state (notesAfter source state occurrences) occurrence := by
  simp [notesAfter, draftNotes]

theorem notesAfter_append (earlier later : List Occurrence) :
    notesAfter source state (earlier ++ later) =
      draftNotes source state (notesAfter source state earlier) later := by
  simp [notesAfter, draftNotes]

theorem draftNote_of_not_get? (progress : History × Draft) {occurrence : Occurrence}
    (h : source.library.get? occurrence.id = none) :
    draftNote source state progress occurrence =
      (progress.1.clearLastCitation, progress.2.pass occurrence) := by
  simp only [draftNote, h]
  rfl

theorem draftNote_of_get? (progress : History × Draft) {occurrence : Occurrence}
    {resource : Resource} (h : source.library.get? occurrence.id = some resource) :
    draftNote source state progress occurrence =
      citeNote source state progress.1 progress.2 occurrence resource := by
  simp only [draftNote, h]

-- A property of every run: it holds at the beginning, and the two ways in which
-- an occurrence is dealt with keep it.
theorem notesAfter_induction (source : Source) (state : Disambiguation)
    {motive : List Occurrence → History × Draft → Prop}
    (start : motive [] ({}, {}))
    (unknown : ∀ occurrences occurrence progress, source.library.get? occurrence.id = none →
      motive occurrences progress →
      motive (occurrences ++ [occurrence])
        (progress.1.clearLastCitation, progress.2.pass occurrence))
    (known : ∀ occurrences occurrence resource progress,
      source.library.get? occurrence.id = some resource → motive occurrences progress →
      motive (occurrences ++ [occurrence])
        (citeNote source state progress.1 progress.2 occurrence resource))
    (occurrences : List Occurrence) :
    motive occurrences (notesAfter source state occurrences) := by
  induction occurrences using List.reverseRecOn with
  | nil => exact start
  | append_singleton occurrences occurrence ih =>
    rw [notesAfter_concat]
    cases h : source.library.get? occurrence.id with
    | none =>
      rw [draftNote_of_not_get? _ h]
      exact unknown _ _ _ h ih
    | some resource =>
      rw [draftNote_of_get? _ h]
      exact known _ _ _ _ h ih

theorem numberNote_counted (history : History) (id : Text)
    (h : source.style.citation.endnoteStyle ≠ .sameId) :
    numberNote source history id =
      ((history.noteCount + 1, true), { history with noteCount := history.noteCount + 1 }) := by
  cases hstyle : source.style.citation.endnoteStyle with
  | sameId => exact absurd hstyle h
  | incrementing => simp only [numberNote, hstyle, History.nextNote]
  | footnote => simp only [numberNote, hstyle, History.nextNote]

theorem numberNote_firstCitation (history : History) (id : Text)
    (h : source.style.citation.endnoteStyle = .sameId)
    (horder : source.style.citation.sameIdOrder = .firstCitation) :
    numberNote source history id = history.noteIdFor id := by
  simp only [numberNote, h, horder]

theorem numberNote_bibliography (history : History) (id : Text)
    (h : source.style.citation.endnoteStyle = .sameId)
    (horder : source.style.citation.sameIdOrder = .bibliography) :
    numberNote source history id =
      history.fixedNoteId id ((source.library.position? id).elim 0 (· + 1)) := by
  simp only [numberNote, h, horder]

-- Numbering a note is no citation.
theorem wasCited_numberNote (history : History) (id other : Text) :
    (numberNote source history id).2.wasCited other = history.wasCited other := by
  by_cases h : source.style.citation.endnoteStyle = .sameId
  · cases horder : source.style.citation.sameIdOrder with
    | firstCitation => rw [numberNote_firstCitation _ _ h horder, History.wasCited_noteIdFor]
    | bibliography => rw [numberNote_bibliography _ _ h horder, History.wasCited_fixedNoteId]
  · rw [numberNote_counted _ _ h]
    rfl

theorem wasCited_citeNote (history : History) (draft : Draft) (occurrence : Occurrence)
    (resource : Resource) (id : Text) :
    (citeNote source state history draft occurrence resource).1.wasCited id =
      (decide (id = occurrence.id) || history.wasCited id) := by
  simp only [citeNote, History.wasCited_record, wasCited_numberNote]

theorem wasCited_notesAfter (occurrences : List Occurrence) (id : Text) :
    (notesAfter source state occurrences).1.wasCited id =
      decide (id ∈ (source.known occurrences).map (·.id)) := by
  induction occurrences using notesAfter_induction source state with
  | start => simp
  | unknown occurrences occurrence progress h ih =>
    rw [History.wasCited_clearLastCitation, ih, source.known_concat_of_not_get? _ h]
  | known occurrences occurrence resource progress h ih =>
    rw [wasCited_citeNote, ih, source.known_concat_of_get? _ h]
    simp [Bool.or_comm]

-- An unknown resource breaks off, a known one is what may be repeated next.
theorem lastCitation_notesAfter (occurrences : List Occurrence) :
    (notesAfter source state occurrences).1.lastCitation =
      (occurrences.getLast?.filter source.knows).map fun last => (last.id, last.pages?) := by
  induction occurrences using notesAfter_induction source state with
  | start => rfl
  | unknown occurrences occurrence progress h ih =>
    simp [Option.filter, source.not_knows_of_get? h]
  | known occurrences occurrence resource progress h ih =>
    simp [citeNote, Option.filter, source.knows_of_get? h]

theorem ids_notesAfter (occurrences : List Occurrence) :
    (notesAfter source state occurrences).2.citations.map (·.id) =
      (source.known occurrences).map (·.id) := by
  induction occurrences using notesAfter_induction source state with
  | start => rfl
  | unknown occurrences occurrence progress h ih =>
    rw [source.known_concat_of_not_get? _ h, ← ih]
    rfl
  | known occurrences occurrence resource progress h ih =>
    simp only [citeNote, List.map_append, source.known_concat_of_get? _ h, ih]
    rfl

-- What is cited stays, and further citations come after it.
theorem citations_draftNotes_prefix (source : Source) (state : Disambiguation)
    (progress : History × Draft) (occurrences : List Occurrence) :
    progress.2.citations <+: (draftNotes source state progress occurrences).2.citations := by
  induction occurrences generalizing progress with
  | nil => exact List.prefix_refl _
  | cons occurrence rest ih =>
    refine List.IsPrefix.trans ?_ (ih (draftNote source state progress occurrence))
    cases h : source.library.get? occurrence.id with
    | none => rw [draftNote_of_not_get? _ h]; exact List.prefix_refl _
    | some resource => rw [draftNote_of_get? _ h]; exact List.prefix_append _ _

-- A citation depends on the occurrences before it alone.
theorem getElem?_citations_notesAfter (state : Disambiguation) {occurrence : Occurrence}
    {resource : Resource} (earlier later : List Occurrence)
    (h : source.library.get? occurrence.id = some resource) :
    ∃ number,
      (notesAfter source state (earlier ++ occurrence :: later)).2.citations[
        (source.known earlier).length]? =
      some (citedNote source state (notesAfter source state earlier).1 occurrence resource
        number) := by
  rcases hnumber : (numberNote source (notesAfter source state earlier).1 occurrence.id).1 with
    ⟨number, isNew⟩
  have hlength : (source.known earlier).length =
      (notesAfter source state earlier).2.citations.length := by
    have hids : (notesAfter source state earlier).2.citations.map (·.id) =
        (source.known earlier).map (·.id) := ids_notesAfter earlier
    simpa using (congrArg List.length hids).symm
  have hprefix := citations_draftNotes_prefix source state
    (draftNote source state (notesAfter source state earlier) occurrence) later
  rw [draftNote_of_get? _ h, citeNote_eq _ _ _ _ hnumber] at hprefix
  obtain ⟨more, hmore⟩ := hprefix
  refine ⟨number, ?_⟩
  rw [notesAfter_append, draftNotes, List.foldl_cons, ← draftNotes, draftNote_of_get? _ h,
    citeNote_eq _ _ _ _ hnumber, ← hmore, hlength]
  simp

end Referencing.Citation
