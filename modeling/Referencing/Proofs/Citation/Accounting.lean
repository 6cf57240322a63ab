import Referencing.Proofs.Citation.Ambiguity
import Referencing.Proofs.Citation.Endnotes
import Referencing.Proofs.Citation.Prose

namespace Referencing.Citation

open Text Markup

variable {source : Source} {state : Disambiguation} {around : Surroundings}

-- The ids of the occurrences that are not cited, because the library does not
-- have their resource.
def Source.unknownIds (source : Source) (occurrences : List Occurrence) : List Text :=
  (occurrences.filter fun occurrence => !source.knows occurrence).map (·.id)

@[simp] theorem Source.unknownIds_nil : source.unknownIds [] = [] := rfl

theorem Source.unknownIds_append (left right : List Occurrence) :
    source.unknownIds (left ++ right) = source.unknownIds left ++ source.unknownIds right := by
  simp [unknownIds]

theorem Source.unknownIds_concat_of_get? (occurrences : List Occurrence) {occurrence : Occurrence}
    {resource : Resource} (h : source.library.get? occurrence.id = some resource) :
    source.unknownIds (occurrences ++ [occurrence]) = source.unknownIds occurrences := by
  simp [unknownIds, knows_of_get? h]

theorem Source.unknownIds_concat_of_not_get? (occurrences : List Occurrence)
    {occurrence : Occurrence} (h : source.library.get? occurrence.id = none) :
    source.unknownIds (occurrences ++ [occurrence]) =
      source.unknownIds occurrences ++ [occurrence.id] := by
  simp [unknownIds, not_knows_of_get? h]

theorem unknown_notesAfter (occurrences : List Occurrence) :
    (notesAfter source state occurrences).2.unknown = source.unknownIds occurrences := by
  induction occurrences using notesAfter_induction source state with
  | start => rfl
  | unknown occurrences occurrence progress h ih =>
    rw [source.unknownIds_concat_of_not_get? _ h, ← ih]
    rfl
  | known occurrences occurrence resource progress h ih =>
    rw [source.unknownIds_concat_of_get? _ h, ← ih, citeNote_eq _ _ _ _ rfl]
    rfl

section Groups

-- In a group an unknown resource leaves its id, and nothing else.
theorem citeGroup_eq (history : History) (occurrences : List Occurrence) :
    citeGroup source state around (history, {}) occurrences =
      ((citeGroup source state around (history, {}) (source.known occurrences)).1,
        { (citeGroup source state around (history, {}) (source.known occurrences)).2 with
          unknown := source.unknownIds occurrences }) := by
  induction occurrences using List.reverseRecOn with
  | nil => rfl
  | append_singleton occurrences occurrence ih =>
    rw [citeGroup_concat, ih]
    cases h : source.library.get? occurrence.id with
    | none =>
      rw [source.known_concat_of_not_get? _ h, source.unknownIds_concat_of_not_get? _ h]
      simp only [citeMember, h]
    | some resource =>
      rw [source.known_concat_of_get? _ h, source.unknownIds_concat_of_get? _ h,
        citeGroup_concat]
      simp only [citeMember, h]
      rfl

theorem unknown_draftGroups (prose : Text) (history : History) (draft : Draft)
    (remaining : List Group) :
    (draftGroups source state prose history draft remaining).2.unknown =
      draft.unknown ++ source.unknownIds (remaining.flatMap Group.occurrences) := by
  induction remaining generalizing prose history draft with
  | nil => simp [draftGroups]
  | cons group rest ih =>
    rw [draftGroups, ih, citeGroup_eq, List.flatMap_cons, source.unknownIds_append,
      List.append_assoc]

-- Two groups in the same prose that cite the same.
structure Group.Agrees (source : Source) (left right : Group) : Prop where
  textBefore : left.first.textBefore = right.first.textBefore
  known : source.known left.occurrences = source.known right.occurrences

theorem Group.Agrees.refl (group : Group) : group.Agrees source group :=
  ⟨rfl, rfl⟩

-- A draft without what is reported of it.
def Draft.silent (draft : Draft) : Draft :=
  { draft with unknown := [] }

-- Groups that agree come to the same.
theorem draftGroups_of_agrees (state : Disambiguation) {left right : List Group}
    (h : List.Forall₂ (Group.Agrees source) left right) (prose : Text) (history : History)
    {draft other : Draft} (hdraft : draft.silent = other.silent) :
    (draftGroups source state prose history draft left).1 =
        (draftGroups source state prose history other right).1 ∧
      (draftGroups source state prose history draft left).2.silent =
        (draftGroups source state prose history other right).2.silent := by
  induction h generalizing prose history draft other with
  | nil => exact ⟨rfl, hdraft⟩
  | @cons group partner left right hagrees _ ih =>
    rw [draftGroups, draftGroups, citeGroup_eq history group.occurrences,
      citeGroup_eq history partner.occurrences, hagrees.textBefore, hagrees.known]
    apply ih
    simp only [Draft.silent, Draft.mk.injEq, and_true] at hdraft ⊢
    obtain ⟨hstretches, hcitations, hnotes⟩ := hdraft
    exact ⟨by rw [hstretches]; rfl, by rw [hcitations], hnotes⟩

-- Which occurrences join the first one does not depend on it.
theorem exists_groups_cons (rest : List Occurrence) :
    ∃ others later, ∀ first, groups (first :: rest) = ⟨first, others⟩ :: later := by
  cases hrest : groups rest with
  | nil => exact ⟨[], [], fun first => by simp [groups, hrest]⟩
  | cons next later =>
    cases hblank : isBlankText next.first.textBefore with
    | true => exact ⟨next.occurrences, later, fun first => by simp [groups, hrest, hblank]⟩
    | false => exact ⟨[], next :: later, fun first => by simp [groups, hrest, hblank]⟩

theorem agrees_groups_cons {left right : List Occurrence}
    (h : List.Forall₂ (Group.Agrees source) (groups left) (groups right)) (first : Occurrence) :
    List.Forall₂ (Group.Agrees source) (groups (first :: left)) (groups (first :: right)) := by
  cases hleft : groups left with
  | nil =>
    rw [hleft, List.forall₂_nil_left_iff] at h
    simpa [groups, hleft, h] using Group.Agrees.refl _
  | cons next later =>
    rw [hleft, List.forall₂_cons_left_iff] at h
    obtain ⟨partner, others, hagrees, hlater, hright⟩ := h
    cases hblank : isBlankText next.first.textBefore with
    | true =>
      have hpartner : isBlankText partner.first.textBefore = true := hagrees.textBefore ▸ hblank
      have hknown : source.known (first :: next.occurrences) =
          source.known (first :: partner.occurrences) := by
        rw [source.known_cons, hagrees.known, ← source.known_cons]
      simpa [groups, hleft, hright, hblank, hpartner] using ⟨⟨rfl, hknown⟩, hlater⟩
    | false =>
      have hpartner : isBlankText partner.first.textBefore = false := hagrees.textBefore ▸ hblank
      simpa [groups, hleft, hright, hblank, hpartner] using
        ⟨Group.Agrees.refl _, hagrees, hlater⟩

-- An unknown resource that joins a group can be left out of it.
theorem agrees_groups_delete {before after : List Occurrence} {occurrence : Occurrence}
    (hbefore : before ≠ []) (hblank : isBlankText occurrence.textBefore = true)
    (h : source.library.get? occurrence.id = none) :
    List.Forall₂ (Group.Agrees source) (groups (before ++ after))
      (groups (before ++ occurrence :: after)) := by
  induction before with
  | nil => exact absurd rfl hbefore
  | cons first rest ih =>
    cases rest with
    | nil =>
      obtain ⟨others, later, hgroups⟩ := exists_groups_cons after
      have hjoined : groups (first :: occurrence :: after) =
          ⟨first, occurrence :: others⟩ :: later := by
        rw [groups, hgroups occurrence]
        simp [hblank, Group.occurrences]
      have hknown : source.known (first :: others) =
          source.known (first :: occurrence :: others) := by
        rw [Source.known, Source.known, List.filter_cons, List.filter_cons, List.filter_cons,
          source.not_knows_of_get? h]
        rfl
      rw [List.singleton_append, List.singleton_append, hgroups first, hjoined]
      exact .cons ⟨rfl, hknown⟩ (List.forall₂_same.2 fun group _ => .refl group)
    | cons second rest => exact agrees_groups_cons (ih (by simp)) first

theorem draftInText_delete (state : Disambiguation) {before : List Occurrence}
    {occurrence : Occurrence} (after : List Occurrence) (tail : Text) (hbefore : before ≠ [])
    (hblank : isBlankText occurrence.textBefore = true)
    (h : source.library.get? occurrence.id = none) :
    let shortened := draftInText source state {} ⟨before ++ after, tail⟩
    let whole := draftInText source state {} ⟨before ++ occurrence :: after, tail⟩
    shortened.1 = whole.1 ∧ shortened.2.stretches = whole.2.stretches ∧
      shortened.2.citations = whole.2.citations := by
  have hagrees : List.Forall₂ (Group.Agrees source) (groups (before ++ after))
      (groups (before ++ occurrence :: after)) :=
    agrees_groups_delete hbefore hblank h
  obtain ⟨hhistory, hsilent⟩ := draftGroups_of_agrees state hagrees [] {} rfl
  simp only [Draft.silent, Draft.mk.injEq, and_true] at hsilent
  obtain ⟨hstretches, hcitations, -⟩ := hsilent
  exact ⟨hhistory, congrArg (· ++ [Stretch.prose tail]) hstretches, hcitations⟩

end Groups

-- An unknown resource is not told apart from another.
theorem disambiguation_delete {before after : List Occurrence} {occurrence : Occurrence}
    (tail : Text) (h : source.library.get? occurrence.id = none) :
    source.disambiguation ⟨before ++ after, tail⟩ =
      source.disambiguation ⟨before ++ occurrence :: after, tail⟩ := by
  have hidentity : Disambiguation.identityOf? source.library source.style.citation occurrence =
      none := by
    simp [Disambiguation.identityOf?, h]
  simp only [Source.disambiguation, Disambiguation.ofOccurrences, List.foldl_append,
    List.foldl_cons, Disambiguation.addOccurrence_of_none hidentity]

section Session

theorem unknown_export (draft : Draft) (format : Format) :
    (draft.export format).unknown = draft.unknown := rfl

theorem renderDocument_fst_of_inText (format : Format) (document : Document) (session : Session)
    (h : source.style.citation.mode = .inText) :
    (renderDocument source format document session).1 =
      ⟨source.disambiguation document,
        (draftInText source (source.disambiguation document) {} document).1⟩ := by
  simp only [renderDocument, draftDocument, h]
  rfl

theorem ids_renderDocument (format : Format) (document : Document) (session : Session) :
    (renderDocument source format document session).2.citations.map (·.id) =
      (source.known document.citations).map (·.id) := by
  cases hmode : source.style.citation.mode with
  | endnote =>
    rw [renderDocument_of_endnote format document session hmode, draftEndnotes_eq,
      citations_export_finish, ids_export, ids_notesAfter]
  | inText =>
    obtain ⟨passages, hkeeps, -⟩ := exists_passages source format document session hmode
    rw [hkeeps.citations_eq, ← hkeeps.occurrences_printedOf, List.map_map, List.map_map]
    rfl

theorem unknown_renderDocument (format : Format) (document : Document) (session : Session) :
    (renderDocument source format document session).2.unknown =
      source.unknownIds document.citations := by
  cases hmode : source.style.citation.mode with
  | endnote =>
    rw [renderDocument_of_endnote format document session hmode, unknown_export,
      draftEndnotes_eq, ← unknown_notesAfter]
    rfl
  | inText =>
    rw [renderDocument_of_inText format document session hmode, unknown_export]
    have hgroups : (draftInText source (source.disambiguation document) {} document).2.unknown =
        source.unknownIds ((groups document.citations).flatMap Group.occurrences) :=
      unknown_draftGroups [] {} {} _
    rw [hgroups, flatMap_groups]

end Session

-- Every occurrence of a document is either cited or reported.
structure Accounts (source : Source) (format : Format) (document : Document)
    (session : Session) : Prop where
  -- In the order of the document, and as often as they occur.
  cited : (renderDocument source format document session).2.citations.map (·.id) =
    (source.known document.citations).map (·.id)
  reported : (renderDocument source format document session).2.unknown =
    (document.citations.filter fun occurrence => !source.knows occurrence).map (·.id)
  -- In the text an unknown resource that joins a group is only reported.
  unseen : source.style.citation.mode = .inText → ∀ before occurrence after,
    document.citations = before ++ occurrence :: after → before ≠ [] →
    isBlankText occurrence.textBefore = true → source.library.get? occurrence.id = none →
    let shortened := renderDocument source format ⟨before ++ after, document.tail⟩ session
    let whole := renderDocument source format document session
    shortened.1 = whole.1 ∧ shortened.2.text = whole.2.text ∧
      shortened.2.citations = whole.2.citations

theorem renderDocument_accounts (source : Source) (format : Format) (document : Document)
    (session : Session) : Accounts source format document session := by
  constructor
  case cited => exact ids_renderDocument format document session
  case reported => exact unknown_renderDocument format document session
  case unseen =>
    intro hmode before occurrence after hcitations hbefore hblank h
    obtain ⟨citations, tail⟩ := document
    obtain rfl : citations = before ++ occurrence :: after := hcitations
    have hstate : source.disambiguation ⟨before ++ after, tail⟩ =
        source.disambiguation ⟨before ++ occurrence :: after, tail⟩ :=
      disambiguation_delete tail h
    obtain ⟨hhistory, hstretches, hcited⟩ := draftInText_delete
      (source.disambiguation ⟨before ++ occurrence :: after, tail⟩) after tail hbefore hblank h
    simp only [renderDocument_fst_of_inText format _ session hmode,
      renderDocument_of_inText format _ session hmode, hstate, Draft.export, hhistory, hstretches,
      hcited, and_self]

-- Two resources that the library does not have: one joins a group, and the other
-- stands after prose of its own.
theorem accounts_of_unknown_in_group :
    let source := Source.make {}
      (.ofList [workOf ['a'] "Smith".toList "2004".toList, workOf ['b'] "Doe".toList "2010".toList])
    let first : Occurrence := { id := ['a'], textBefore := "See ".toList }
    let joining : Occurrence := { id := ['c'], textBefore := [' '] }
    let after : List Occurrence :=
      [{ id := ['b'] }, { id := ['d'], textBefore := " and ".toList }, { id := ['a'] }]
    let document : Document := ⟨first :: joining :: after, ['.']⟩
    let output := (renderDocument source .plain document {}).2
    Accounts source .plain document {} ∧ output.unknown = [['c'], ['d']] ∧
      output.citations.map (·.id) = [['a'], ['b'], ['a']] ∧
      (renderDocument source .plain ⟨first :: after, ['.']⟩ {}).2.text = output.text := by
  intro source first joining after document output
  have haccounts := renderDocument_accounts source .plain document {}
  have hunseen := haccounts.unseen rfl [first] joining after rfl (List.cons_ne_nil _ _) rfl rfl
  exact ⟨haccounts, haccounts.reported, haccounts.cited, hunseen.2.1⟩

end Referencing.Citation
