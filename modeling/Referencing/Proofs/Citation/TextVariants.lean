import Mathlib.Data.List.Basic
import Referencing.Proofs.Citation.Ambiguity
import Referencing.Proofs.Citation.Prose

namespace Referencing.Citation

open Text Markup Value

variable {source : Source} {state : Disambiguation}

-- The last citation of the group that is not blank is of the same creators.
def ContinuesLead (sofar : List Printed) (occurrence : Occurrence) (resource : Resource) : Prop :=
  ∃ previous ∈ (sofar.filter Printed.isShown).getLast?,
    ∃ lead ∈ leadCreators occurrence resource,
      leadCreators previous.occurrence previous.resource = some lead

-- The last sentence of the prose names the first creator of the resource.
def NamesCreator (prose : Text) (resource : Resource) : Prop :=
  ∃ surname ∈ leadSurname resource, (findMention (cutLastSentence prose).2 surname).isSome

instance (sofar : List Printed) (occurrence : Occurrence) (resource : Resource) :
    Decidable (ContinuesLead sofar occurrence resource) := by
  unfold ContinuesLead
  infer_instance

instance (prose : Text) (resource : Resource) : Decidable (NamesCreator prose resource) := by
  unfold NamesCreator
  infer_instance

-- The variant of a citation in the text as what stands before it decides: the
-- occurrences `earlier`, the citations printed so far in its group, and the prose
-- up to that of its group.
def inTextVariant (source : Source) (document : Document) (earlier : List Occurrence)
    (prose : Text) (sofar : List Printed) (occurrence : Occurrence) (resource : Resource) :
    Variant :=
  let options := source.style.citation
  let templates := source.compiled.citation
  if options.ambiguity = .template ∧
      Disambiguation.SharesIdentity source.library options document.citations occurrence.id ∧
      templates.ambiguous.isSome then .ambiguous
  else if (templates.byType.get? (typeOf occurrence resource)).isSome then .typeReplacement
  else if templates.consecutiveCreator.isSome ∧ ContinuesLead sofar occurrence resource then
    .consecutiveCreator
  else if templates.followCreator.isSome ∧ NamesCreator prose resource then .followCreator
  else if templates.subsequent.isSome ∧ ∃ other ∈ earlier, other.id = occurrence.id then
    .subsequent
  else .base

-- The template that a style has for a variant itself.
def Source.ownTemplate? (source : Source) (variant : Variant) (type : Text) : Option Template :=
  let templates := source.compiled.citation
  match variant with
  | .base => some templates.base
  | .ambiguous => templates.ambiguous
  | .typeReplacement => templates.byType.get? type
  | .followCreator => templates.followCreator
  | .consecutiveCreator => templates.consecutiveCreator
  | .subsequent => templates.subsequent
  | .ibid => templates.ibid
  | .idem => templates.idem
  | .opCit => templates.opCit

theorem isSome_ownTemplate?_inTextVariant (source : Source) (document : Document)
    (earlier : List Occurrence) (prose : Text) (sofar : List Printed) (occurrence : Occurrence)
    (resource : Resource) :
    (source.ownTemplate? (inTextVariant source document earlier prose sofar occurrence resource)
      (typeOf occurrence resource)).isSome := by
  unfold inTextVariant
  simp only []
  split
  · next h => exact h.2.2
  · split
    · next h => exact h
    · split
      · next h => exact h.1
      · split
        · next h => exact h.1
        · split
          · next h => exact h.1
          · rfl

theorem continuesLead_of_inTextVariant {document : Document} {earlier : List Occurrence}
    {prose : Text} {sofar : List Printed} {occurrence : Occurrence} {resource : Resource}
    (h : inTextVariant source document earlier prose sofar occurrence resource =
      .consecutiveCreator) : ContinuesLead sofar occurrence resource := by
  unfold inTextVariant at h
  simp only [] at h
  split at h
  · contradiction
  · split at h
    · contradiction
    · split at h
      · next hcontinues => exact hcontinues.2
      · split at h
        · contradiction
        · split at h <;> contradiction

theorem template_eq_of_ownTemplate? {variant : Variant} {type : Text} {template : Template}
    (h : source.ownTemplate? variant type = some template) :
    source.template variant type = template := by
  unfold Source.ownTemplate? at h
  unfold Source.template
  cases variant <;> simp_all

theorem lastLead_eq (printed : List Printed) :
    lastLead printed = (printed.filter Printed.isShown).getLast?.bind
      fun entry => leadCreators entry.occurrence entry.resource := by
  rw [lastLead, filterMap_member?, List.getLast?_map, Option.bind_map]
  rfl

theorem continuesLead_iff (sofar : List Printed) (occurrence : Occurrence) (resource : Resource) :
    ((leadCreators occurrence resource).isSome &&
        lastLead sofar = leadCreators occurrence resource) = true ↔
      ContinuesLead sofar occurrence resource := by
  rw [lastLead_eq, ContinuesLead]
  cases hlead : leadCreators occurrence resource with
  | none => simp
  | some lead =>
    cases (sofar.filter Printed.isShown).getLast? with
    | none => simp
    | some previous => simp

theorem isSome_mentionEnd_iff (prose textBefore : Text) (resource : Resource) :
    (mentionEnd (surroundings prose textBefore) resource).isSome = true ↔
      NamesCreator (prose ++ textBefore) resource := by
  simp only [mentionEnd, surroundings, NamesCreator, Option.isSome_map]
  cases leadSurname resource with
  | none => simp
  | some surname => simp

theorem wasCited_iff {history : History} {printed : List Printed} {earlier : List Occurrence}
    {occurrence : Occurrence} {resource : Resource} (hhistory : Remembers history printed)
    (hprinted : printed.map (·.occurrence) = source.known earlier)
    (h : source.library.get? occurrence.id = some resource) :
    history.wasCited occurrence.id = true ↔ ∃ other ∈ earlier, other.id = occurrence.id := by
  rw [hhistory, ← Source.mem_known_ids_iff h, ← hprinted]
  simp

theorem chooseInText_eq {document : Document} {history : History} {earlier : List Occurrence}
    {prose : Text} {sofar : List Printed} {occurrence : Occurrence} {resource : Resource}
    {consecutive mentioned : Bool}
    (hconsecutive : consecutive = true ↔ ContinuesLead sofar occurrence resource)
    (hmentioned : mentioned = true ↔ NamesCreator prose resource)
    (hcited : history.wasCited occurrence.id = true ↔ ∃ other ∈ earlier, other.id = occurrence.id) :
    chooseInText source (source.disambiguation document) history occurrence resource consecutive
        mentioned =
      inTextVariant source document earlier prose sofar occurrence resource := by
  unfold chooseInText inTextVariant
  refine if_congr (usesAmbiguous_disambiguation_iff document _) rfl (if_congr ?_ rfl
    (if_congr ?_ rfl (if_congr ?_ rfl (if_congr ?_ rfl rfl))))
  · rw [Dict.contains_eq_isSome]
  · rw [Bool.and_eq_true, hconsecutive, and_comm]
  · rw [Bool.and_eq_true, hmentioned, and_comm]
  · rw [Bool.and_eq_true, hcited, and_comm]

-- A citation of a group among those of the whole document.
theorem exists_passage_split {passages : List Passage} {left right : List Printed}
    {entry : Printed} (h : printedOf passages = left ++ entry :: right) :
    ∃ past passage rest sofar after, passages = past ++ passage :: rest ∧
      passage.printed = sofar ++ entry :: after ∧ left = printedOf past ++ sofar := by
  induction passages generalizing left with
  | nil => simp [printedOf] at h
  | cons first others ih =>
    rw [printedOf, List.flatMap_cons, ← printedOf] at h
    rcases List.append_eq_append_iff.1 h with ⟨more, rfl, hrest⟩ | ⟨more, hfirst, hrest⟩
    · obtain ⟨past, passage, rest, sofar, after, rfl, hpassage, rfl⟩ := ih hrest
      exact ⟨first :: past, passage, rest, sofar, after, rfl, hpassage, by simp [printedOf]⟩
    · cases more with
      | nil =>
        have hothers : printedOf others = [] ++ entry :: right := hrest.symm
        obtain ⟨past, passage, rest, sofar, after, rfl, hpassage, hnone⟩ := ih hothers
        refine ⟨first :: past, passage, rest, sofar, after, rfl, hpassage, ?_⟩
        rw [printedOf, List.flatMap_cons, ← printedOf, List.append_assoc, ← hnone, hfirst,
          List.append_nil, List.append_nil]
      | cons found more =>
        obtain ⟨rfl, -⟩ := List.cons.inj hrest
        exact ⟨[], first, others, left, more, rfl, hfirst, rfl⟩

-- The citation of an occurrence, where it stands among what was printed.
theorem KeepsProse.exists_printed {format : Format} {document : Document} {output : Output}
    {passages : List Passage} (hkeeps : KeepsProse source format document output passages)
    {earlier later : List Occurrence} {occurrence : Occurrence} {resource : Resource}
    (hdocument : document.citations = earlier ++ occurrence :: later)
    (h : source.library.get? occurrence.id = some resource) :
    ∃ past passage rest sofar printed after,
      passages = past ++ passage :: rest ∧ passage.printed = sofar ++ printed :: after ∧
      printed.occurrence = occurrence ∧ printed.resource = resource ∧
      (printedOf past ++ sofar).map (·.occurrence) = source.known earlier ∧
      output.citations[(source.known earlier).length]? = some (printed.cited.export format) := by
  have hknown := hkeeps.occurrences_printedOf
  have hsplit : source.known document.citations =
      source.known earlier ++ occurrence :: source.known later := by
    rw [hdocument, source.known_append, Source.known, Source.known, List.filter_cons,
      source.knows_of_get? h]
    rfl
  rw [hsplit] at hknown
  obtain ⟨left, others, hprinted, hleft, hothers⟩ := List.map_eq_append_iff.1 hknown
  obtain ⟨printed, right, rfl, hoccurrence, -⟩ := List.map_eq_cons_iff.1 hothers
  obtain ⟨past, passage, rest, sofar, after, hpassages, hpassage, rfl⟩ :=
    exists_passage_split hprinted
  refine ⟨past, passage, rest, sofar, printed, after, hpassages, hpassage, hoccurrence, ?_, hleft,
    ?_⟩
  · have hfound := hkeeps.found passage (by simp [hpassages]) printed (by simp [hpassage])
    rw [hoccurrence, h] at hfound
    exact (Option.some.inj hfound).symm
  · rw [hkeeps.citations_eq, hprinted, ← hleft, List.length_map]
    simp

-- The text of a group where two of its members meet.
theorem joinMembers_append (options : CitationOptions) (front : List Member) (left right : Member)
    (back : List Member) :
    joinMembers options (front ++ left :: right :: back) =
      joinMembers options (front ++ [left]) ++ separator options left right ++
        joinMembers options (right :: back) := by
  induction front with
  | nil => simp [joinMembers]
  | cons first front ih =>
    cases front with
    | nil => simp [joinMembers]
    | cons second front =>
      simp only [List.cons_append] at ih
      simp [joinMembers, ih]

-- A citation printed directly after another one of the same creators.
def Passage.FollowsSameLead (options : CitationOptions) (passage : Passage) (printed : Printed) :
    Prop :=
  ∃ front left back, passage.members = front ++ left :: printed.member :: back ∧
    left.SameLead printed.member ∧
    joinMembers options passage.members =
      joinMembers options (front ++ [left]) ++ options.creatorSeparator ++
        joinMembers options (printed.member :: back)

theorem followsSameLead_of_continuesLead (options : CitationOptions) {passage : Passage}
    {sofar after : List Printed} {printed : Printed}
    (hprinted : passage.printed = sofar ++ printed :: after) (hshown : printed.isShown = true)
    (h : ContinuesLead sofar printed.occurrence printed.resource) :
    passage.FollowsSameLead options printed := by
  obtain ⟨previous, hprevious, lead, hlead, hsame⟩ := h
  obtain ⟨front, hfront⟩ := List.getLast?_eq_some_iff.1 hprevious
  have hmembers : passage.members = front.map Printed.member ++ previous.member ::
      printed.member :: (after.filter Printed.isShown).map Printed.member := by
    rw [Passage.members, filterMap_member?, hprinted, List.filter_append, List.filter_cons,
      if_pos hshown, hfront]
    simp
  have hlead : previous.member.SameLead printed.member := ⟨lead, hsame, hlead⟩
  refine ⟨_, _, _, hmembers, hlead, ?_⟩
  rw [hmembers, joinMembers_append, separator_eq_of_sameLead options hlead]

-- How a citation was printed by the template of its variant, its locator taken out
-- if it was moved to the name of the creator.
def Printed.UsesTemplate (source : Source) (state : Disambiguation) (printed : Printed) : Prop :=
  ∃ template prepared,
    source.ownTemplate? printed.variant (typeOf printed.occurrence printed.resource) =
      some template ∧
    (prepared = source.prepare state printed.occurrence printed.resource ∨
      printed.variant = .followCreator ∧
        source.style.citation.followCreatorPageSplit = true ∧
        prepared = (source.prepare state printed.occurrence printed.resource).erase "pages") ∧
    printed.text =
      withAffixes printed.occurrence (template.render prepared.item prepared.plurals)

theorem splitLocator_cases (options : CitationOptions) (around : Surroundings) (variant : Variant)
    (mention : Option Nat) (prepared : Prepared) :
    (splitLocator options around variant mention prepared).1 = prepared ∨
      variant = .followCreator ∧ options.followCreatorPageSplit = true ∧
        (splitLocator options around variant mention prepared).1 = prepared.erase "pages" := by
  unfold splitLocator
  split
  · next hsplit =>
    rw [Bool.and_eq_true, decide_eq_true_eq] at hsplit
    split
    · exact .inr ⟨hsplit.1, hsplit.2, rfl⟩
    · exact .inl rfl
  · exact .inl rfl

theorem usesTemplate_printInText {around : Surroundings} {history : History} {last : Option Text}
    {occurrence : Occurrence} {resource : Resource} {template : Template}
    (h : source.ownTemplate?
      (printInText source state around history last occurrence resource).variant
      (typeOf occurrence resource) = some template) :
    (printInText source state around history last occurrence resource).UsesTemplate source
      state := by
  refine ⟨template, _, h, splitLocator_cases source.style.citation around _
    (mentionEnd around resource) _, ?_⟩
  rw [← template_eq_of_ownTemplate? h]
  rfl

-- The variant of every citation in the text depends on the occurrences before it,
-- and on the document only for what is ambiguous. Its template is the one of the
-- variant.
theorem renderDocument_inTextVariant (source : Source) (format : Format) (document : Document)
    (session : Session) (hmode : source.style.citation.mode = .inText) :
    ∃ passages,
      KeepsProse source format document (renderDocument source format document session).2
        passages ∧
      ∀ earlier occurrence later resource,
        document.citations = earlier ++ occurrence :: later →
        source.library.get? occurrence.id = some resource →
        ∃ past passage rest sofar printed after,
          passages = past ++ passage :: rest ∧ passage.printed = sofar ++ printed :: after ∧
          printed.occurrence = occurrence ∧ printed.resource = resource ∧
          (printedOf past ++ sofar).map (·.occurrence) = source.known earlier ∧
          (renderDocument source format document session).2.citations[
            (source.known earlier).length]? = some (printed.cited.export format) ∧
          printed.variant = inTextVariant source document earlier
            (proseOf past ++ passage.group.first.textBefore) sofar occurrence resource ∧
          printed.UsesTemplate source (source.disambiguation document) ∧
          (printed.variant = .consecutiveCreator → printed.isShown = true →
            passage.FollowsSameLead source.style.citation printed) := by
  obtain ⟨passages, hkeeps, hsucceeds⟩ :=
    exists_succeeding_passages source format document session hmode
  refine ⟨passages, hkeeps, ?_⟩
  intro earlier occurrence later resource hdocument hresource
  obtain ⟨past, passage, rest, sofar, printed, after, hpassages, hprinted, rfl, rfl, hearlier,
    hcited⟩ := hkeeps.exists_printed hdocument hresource
  obtain ⟨history, hhistory, hentry⟩ :=
    (hsucceeds past passage rest hpassages).inTurn.eq_printInText hprinted
  have hvariant : printed.variant = inTextVariant source document earlier
      (proseOf past ++ passage.group.first.textBefore) sofar printed.occurrence
      printed.resource := by
    rw [hentry]
    exact chooseInText_eq (continuesLead_iff sofar _ _) (isSome_mentionEnd_iff _ _ _)
      (wasCited_iff hhistory hearlier hresource)
  refine ⟨past, passage, rest, sofar, printed, after, hpassages, hprinted, rfl, rfl, hearlier,
    hcited, hvariant, ?_, fun hconsecutive hshown => ?_⟩
  · have hown := isSome_ownTemplate?_inTextVariant source document earlier
      (proseOf past ++ passage.group.first.textBefore) sofar printed.occurrence printed.resource
    rw [← hvariant] at hown
    obtain ⟨template, htemplate⟩ := Option.isSome_iff_exists.1 hown
    rw [hentry] at htemplate ⊢
    exact usesTemplate_printInText htemplate
  · rw [hvariant] at hconsecutive
    exact followsSameLead_of_continuesLead _ hprinted hshown
      (continuesLead_of_inTextVariant hconsecutive)

-- Two citations of one group by the same author, the second of them without its
-- name, and then one that the prose names.
theorem inTextVariant_of_same_author :
    let source := Source.make
      { citation := { consecutiveCreatorTemplate := some "year".toList
                      followCreatorTemplate := some "year|: pages".toList
                      subsequentTemplate := some "creator".toList } }
      (.ofList [workOf ['a'] "Smith".toList "2004".toList, workOf ['b'] "Smith".toList "2010".toList])
    let document : Document :=
      { citations := [
          { id := ['a'], textBefore := "First ".toList }, { id := ['c'] }, { id := ['b'] },
          { id := ['a'], textBefore := ". Then Smith ".toList },
          { id := ['a'], textBefore := ". Again ".toList }] }
    source.style.citation.mode = .inText ∧
      (∃ printed : Printed, printed.occurrence = { id := ['b'] } ∧
        printed.variant = .consecutiveCreator ∧
        (renderDocument source .plain document {}).2.citations[1]? =
          some (printed.cited.export .plain)) ∧
      (renderDocument source .plain document {}).2.text =
        "First (Smith 2004, 2010). Then Smith (2004). Again (Smith)".toList ∧
      (renderDocument source .plain document {}).2.citations.map (·.variant) =
        [.base, .consecutiveCreator, .followCreator, .subsequent] := by
  intro source document
  have hrun : (renderDocument source .plain document {}).2.text =
        "First (Smith 2004, 2010). Then Smith (2004). Again (Smith)".toList ∧
      (renderDocument source .plain document {}).2.citations.map (·.variant) =
        [.base, .consecutiveCreator, .followCreator, .subsequent] := by
    decide +kernel
  refine ⟨rfl, ?_, hrun⟩
  obtain ⟨passages, -, hvariants⟩ := renderDocument_inTextVariant source .plain document {} rfl
  have hdocument : document.citations =
      [{ id := ['a'], textBefore := "First ".toList }, { id := ['c'] }] ++ { id := ['b'] } ::
        document.citations.drop 3 := rfl
  have hresource : source.library.get? ['b'] =
      some (workOf ['b'] "Smith".toList "2010".toList) := by
    decide +kernel
  obtain ⟨-, -, -, -, printed, -, -, -, hoccurrence, -, -, hcited, -⟩ :=
    hvariants _ _ _ _ hdocument hresource
  have hindex : (source.known
      [{ id := ['a'], textBefore := "First ".toList }, { id := ['c'] }]).length = 1 := by
    decide +kernel
  rw [hindex] at hcited
  refine ⟨printed, hoccurrence, ?_, hcited⟩
  have hvariant := congrArg (·[1]?) hrun.2
  simpa [hcited, Cited.export, Printed.cited] using hvariant

end Referencing.Citation
