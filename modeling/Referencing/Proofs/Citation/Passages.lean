import Referencing.Proofs.Citation.Printed
import Referencing.Proofs.Data.Sorting

namespace Referencing.Citation

open Text Markup

variable {source : Source} {state : Disambiguation}

section Groups

theorem flatMap_groups (occurrences : List Occurrence) :
    (groups occurrences).flatMap Group.occurrences = occurrences := by
  fun_induction groups occurrences with
  | case1 => rfl
  | case2 occurrence rest hrest ih =>
    rw [hrest] at ih
    simpa [Group.occurrences] using ih
  | case3 occurrence rest next later hrest hblank ih =>
    rw [hrest] at ih
    simpa [Group.occurrences] using ih
  | case4 occurrence rest next later hrest hblank ih =>
    rw [hrest] at ih
    simpa [Group.occurrences] using ih

theorem isBlankText_of_mem_others {occurrences : List Occurrence} :
    ∀ group ∈ groups occurrences, ∀ other ∈ group.others, isBlankText other.textBefore = true := by
  fun_induction groups occurrences with
  | case1 => simp
  | case2 occurrence rest hrest ih => simp
  | case3 occurrence rest next later hrest hblank ih =>
    rw [hrest] at ih
    simp only [List.mem_cons, forall_eq_or_imp] at ih ⊢
    refine ⟨?_, ih.2⟩
    simp only [Group.occurrences, List.mem_cons, forall_eq_or_imp]
    exact ⟨hblank, ih.1⟩
  | case4 occurrence rest next later hrest hblank ih =>
    rw [hrest] at ih
    rw [List.forall_mem_cons]
    exact ⟨by simp, ih⟩

theorem not_isBlankText_of_mem_tail {occurrences : List Occurrence} :
    ∀ group ∈ (groups occurrences).tail, isBlankText group.first.textBefore = false := by
  fun_induction groups occurrences with
  | case1 => simp
  | case2 occurrence rest hrest ih => simp
  | case3 occurrence rest next later hrest hblank ih => rwa [hrest] at ih
  | case4 occurrence rest next later hrest hblank ih =>
    rw [hrest] at ih
    rw [List.tail_cons, List.forall_mem_cons]
    exact ⟨by simpa using hblank, ih⟩

end Groups

section Cuts

-- A piece of the prose, and the locator that is put in after it.
structure Cut where
  prose : Text
  splice : Splice

-- The prose of a group cut where its locators are put in.
def cutProse (passed : Nat) (prose : Text) : List Splice → List Cut × Text
  | [] => ([], prose)
  | splice :: rest =>
    let (cuts, last) := cutProse splice.position (prose.drop (splice.position - passed)) rest
    (⟨prose.take (splice.position - passed), splice⟩ :: cuts, last)

def Cut.stretches (cut : Cut) : List Stretch :=
  [.prose cut.prose, .markup cut.splice.text]

theorem interleave_eq (passed : Nat) (prose : Text) (splices : List Splice) :
    interleave passed prose splices =
      (cutProse passed prose splices).1.flatMap Cut.stretches ++
        [.prose (cutProse passed prose splices).2] := by
  induction splices generalizing passed prose with
  | nil => rfl
  | cons splice rest ih => simp [interleave, cutProse, Cut.stretches, ih]

-- Without the locators the prose is as it was.
theorem append_cutProse (passed : Nat) (prose : Text) (splices : List Splice) :
    (cutProse passed prose splices).1.flatMap (·.prose) ++ (cutProse passed prose splices).2 =
      prose := by
  induction splices generalizing passed prose with
  | nil => rfl
  | cons splice rest ih =>
    simp only [cutProse, List.flatMap_cons, List.append_assoc, ih, List.take_append_drop]

theorem splices_cutProse (passed : Nat) (prose : Text) (splices : List Splice) :
    (cutProse passed prose splices).1.map (·.splice) = splices := by
  induction splices generalizing passed prose with
  | nil => rfl
  | cons splice rest ih => simp [cutProse, ih]

-- The prose before a locator is all that stands before its position.
theorem take_of_cutProse {passed : Nat} {prose : Text} {splices : List Splice}
    {before after : List Cut} {cut : Cut}
    (hsorted : splices.Pairwise fun left right => left.position ≤ right.position)
    (hpassed : ∀ splice ∈ splices, passed ≤ splice.position)
    (h : (cutProse passed prose splices).1 = before ++ cut :: after) :
    (before ++ [cut]).flatMap (·.prose) = prose.take (cut.splice.position - passed) := by
  induction splices generalizing passed prose before with
  | nil => simp [cutProse] at h
  | cons splice rest ih =>
    obtain ⟨hle, hsorted⟩ := List.pairwise_cons.1 hsorted
    simp only [cutProse] at h
    cases before with
    | nil =>
      obtain ⟨rfl, -⟩ := List.cons.inj h
      simp
    | cons first before =>
      obtain ⟨rfl, hrest⟩ := List.cons.inj h
      have hcut : cut.splice ∈ rest := by
        rw [← splices_cutProse splice.position (prose.drop (splice.position - passed)) rest, hrest]
        simp
      have hposition := hle cut.splice hcut
      have hsplice := hpassed splice List.mem_cons_self
      rw [List.cons_append, List.flatMap_cons, ih hsorted hle hrest, ← List.take_add]
      congr 1
      omega

end Cuts

-- A group as it stands in the document: its prose cut at the locators, and what
-- it printed.
structure Passage where
  group : Group
  cuts : List Cut
  rest : Text
  printed : List Printed

def Passage.members (passage : Passage) : List Member :=
  passage.printed.filterMap Printed.member?

def Passage.stretches (options : CitationOptions) (passage : Passage) : List Stretch :=
  passage.cuts.flatMap Cut.stretches ++ .prose passage.rest ::
    if passage.members = [] then []
    else [.markup (options.firstChars ++ joinMembers options passage.members ++ options.lastChars)]

-- The prose of a group is cut at its own locators alone.
structure Passage.Composes (source : Source) (state : Disambiguation) (prose : Text)
    (passage : Passage) : Prop where
  known : passage.printed.map (·.occurrence) = source.known passage.group.occurrences
  found : ∀ printed ∈ passage.printed,
    source.library.get? printed.occurrence.id = some printed.resource
  moved : ∀ printed ∈ passage.printed, ∀ splice ∈ printed.splice,
    printed.Moves source state (surroundings prose passage.group.first.textBefore) splice
  prose : passage.cuts.flatMap (·.prose) ++ passage.rest = passage.group.first.textBefore
  locators : (passage.cuts.map (·.splice)).Perm (passage.printed.filterMap (·.splice))
  reached : ∀ before cut after, passage.cuts = before ++ cut :: after →
    (before ++ [cut]).flatMap (·.prose) = passage.group.first.textBefore.take cut.splice.position

-- The locators of a group in the order of their positions.
def orderedSplices (splices : List Splice) : List Splice :=
  splices.mergeSort fun left right => decide (left.position ≤ right.position)

-- The passage of a group that has printed its citations.
def passageOf (group : Group) (printed : List Printed) : Passage :=
  let (cuts, rest) := cutProse 0 group.first.textBefore
    (orderedSplices (printed.filterMap (·.splice)))
  ⟨group, cuts, rest, printed⟩

theorem composes_passageOf {prose : Text} {group : Group} {printed : List Printed}
    {draft : GroupDraft}
    (h : draft.Prints source state (surroundings prose group.first.textBefore)
      group.occurrences printed) :
    (passageOf group printed).Composes source state prose := by
  constructor
  case known => exact h.known
  case found => exact h.found
  case moved => exact h.moved
  case prose => exact append_cutProse _ _ _
  case locators =>
    simp only [passageOf, splices_cutProse]
    exact List.mergeSort_perm _ _
  case reached =>
    intro before cut after hcuts
    exact take_of_cutProse (pairwise_mergeSort_key Splice.position _)
      (fun _ _ => Nat.zero_le _) hcuts

theorem groupStretches_eq {around : Surroundings} {group : Group} {printed : List Printed}
    {draft : GroupDraft} (options : CitationOptions)
    (h : draft.Prints source state around group.occurrences printed) :
    groupStretches options group.first.textBefore draft =
      (passageOf group printed).stretches options := by
  simp only [groupStretches, Passage.stretches, Passage.members, passageOf, h.members, h.splices,
    interleave_eq, List.append_assoc]
  rfl

-- The prose of a document up to some group.
def proseOf (passages : List Passage) : Text :=
  passages.flatMap (·.group.first.textBefore)

@[simp] theorem proseOf_nil : proseOf [] = [] := rfl

theorem proseOf_append (left right : List Passage) :
    proseOf (left ++ right) = proseOf left ++ proseOf right :=
  List.flatMap_append

def printedOf (passages : List Passage) : List Printed :=
  passages.flatMap (·.printed)

-- A passage is put together in the prose of those before it, and its citations are
-- printed as those before it decide.
structure Passage.Succeeds (source : Source) (state : Disambiguation) (past : List Passage)
    (passage : Passage) : Prop where
  composes : passage.Composes source state (proseOf past)
  inTurn : PrintsInTurn source state (surroundings (proseOf past) passage.group.first.textBefore)
    (printedOf past) passage.printed

-- Every group of a document leaves a passage, after those of the groups before it.
theorem passages_draftGroups (source : Source) (state : Disambiguation) (past : List Passage)
    {history : History} (hhistory : Remembers history (printedOf past)) (draft : Draft)
    (remaining : List Group) :
    ∃ passages : List Passage,
      passages.map (·.group) = remaining ∧
      (∀ earlier passage later, passages = earlier ++ passage :: later →
        passage.Succeeds source state (past ++ earlier)) ∧
      (draftGroups source state (proseOf past) history draft remaining).2.stretches =
        draft.stretches ++ passages.flatMap (Passage.stretches source.style.citation) ∧
      (draftGroups source state (proseOf past) history draft remaining).2.citations =
        draft.citations ++ passages.flatMap fun passage => passage.printed.map Printed.cited := by
  induction remaining generalizing past history draft with
  | nil => exact ⟨[], rfl, by simp, by simp [draftGroups], by simp [draftGroups]⟩
  | cons group rest ih =>
    obtain ⟨printed, hprints, hturn, hremembers⟩ := prints_citeGroup source state
      (surroundings (proseOf past) group.first.textBefore) hhistory group.occurrences
    rcases hmade : citeGroup source state (surroundings (proseOf past) group.first.textBefore)
      (history, {}) group.occurrences with ⟨next, made⟩
    rw [hmade] at hprints hremembers
    simp only [draftGroups, hmade]
    have hnext : Remembers next (printedOf (past ++ [passageOf group printed])) := by
      rw [printedOf, List.flatMap_append, List.flatMap_singleton]
      exact hremembers
    have hprose : proseOf past ++ group.first.textBefore =
        proseOf (past ++ [passageOf group printed]) := by
      rw [proseOf_append]
      simp [proseOf, passageOf]
    rw [hprose]
    obtain ⟨passages, hgroups, hsucceeds, hstretches, hcitations⟩ := ih
      (past ++ [passageOf group printed]) hnext
      { draft with
        stretches := draft.stretches ++
          groupStretches source.style.citation group.first.textBefore made
        citations := draft.citations ++ made.citations
        unknown := draft.unknown ++ made.unknown }
    refine ⟨passageOf group printed :: passages, by rw [List.map_cons, hgroups]; rfl, ?_, ?_, ?_⟩
    · intro earlier passage later hsplit
      cases earlier with
      | nil =>
        obtain ⟨rfl, -⟩ := List.cons.inj hsplit
        rw [List.append_nil]
        exact ⟨composes_passageOf hprints, hturn⟩
      | cons first earlier =>
        obtain ⟨rfl, hrest⟩ := List.cons.inj hsplit
        rw [List.append_cons]
        exact hsucceeds earlier passage later hrest
    · rw [hstretches, groupStretches_eq _ hprints]
      simp
    · rw [hcitations, hprints.citations]
      simp [passageOf]

end Referencing.Citation
