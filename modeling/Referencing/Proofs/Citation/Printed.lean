import Mathlib.Data.List.Induction
import Referencing.Citation.InText
import Referencing.Proofs.Citation.Known

namespace Referencing.Citation

open Text Value

variable {source : Source} {state : Disambiguation} {around : Surroundings}

-- A citation of a known resource as it is printed in the text, and the locator
-- that was moved out of it.
structure Printed where
  occurrence : Occurrence
  resource : Resource
  variant : Variant
  text : Text
  splice : Option Splice

def Printed.cited (printed : Printed) : Cited :=
  ⟨printed.occurrence.id, printed.text, printed.variant, none⟩

-- Blank citations are not members of their group.
def Printed.member? (printed : Printed) : Option Member :=
  if isBlankText printed.text then none
  else some ⟨printed.text, leadCreators printed.occurrence printed.resource⟩

theorem Printed.append_member (members : List Member) (printed : Printed) :
    members ++ printed.member?.toList =
      if isBlankText printed.text then members
      else members ++ [⟨printed.text, leadCreators printed.occurrence printed.resource⟩] := by
  by_cases h : isBlankText printed.text <;> simp [member?, h]

-- A citation of which something is seen, and what it is as a member of its group.
def Printed.isShown (printed : Printed) : Bool :=
  !isBlankText printed.text

def Printed.member (printed : Printed) : Member :=
  ⟨printed.text, leadCreators printed.occurrence printed.resource⟩

theorem filterMap_member? (printed : List Printed) :
    printed.filterMap Printed.member? = (printed.filter Printed.isShown).map Printed.member := by
  induction printed with
  | nil => rfl
  | cons entry rest ih =>
    by_cases h : isBlankText entry.text <;>
      simp [Printed.member?, Printed.member, Printed.isShown, h, ih]

-- The locator is one of the citation itself, and its place is the end of a
-- mention that is not in the prose of earlier groups.
structure Printed.Moves (source : Source) (state : Disambiguation) (around : Surroundings)
    (printed : Printed) (splice : Splice) : Prop where
  variant : printed.variant = .followCreator
  split : source.style.citation.followCreatorPageSplit = true
  position : ∃ place, mentionEnd around printed.resource = some place ∧
    around.passed ≤ place ∧ splice.position = place - around.passed
  text : ∃ pages,
    (source.prepare state printed.occurrence printed.resource).item.stored.get?
      "pages".toList = some pages ∧
    splice.text =
      ' ' :: source.style.citation.firstChars ++ pages ++ source.style.citation.lastChars

-- How one occurrence is printed after a citation of the creators `last`.
def printInText (source : Source) (state : Disambiguation) (around : Surroundings)
    (history : History) (last : Option Text) (occurrence : Occurrence) (resource : Resource) :
    Printed :=
  let lead := leadCreators occurrence resource
  let mention := mentionEnd around resource
  let variant := chooseInText source state history occurrence resource
    (lead.isSome && last = lead) mention.isSome
  let split := splitLocator source.style.citation around variant mention
    (source.prepare state occurrence resource)
  let template := source.template variant (typeOf occurrence resource)
  ⟨occurrence, resource, variant,
    withAffixes occurrence (template.render split.1.item split.1.plurals), split.2⟩

def GroupDraft.print (draft : GroupDraft) (printed : Printed) : GroupDraft :=
  { draft with
    members := draft.members ++ printed.member?.toList
    splices := draft.splices ++ printed.splice.toList
    citations := draft.citations ++ [printed.cited] }

theorem citeInText_eq (history : History) (draft : GroupDraft) (occurrence : Occurrence)
    (resource : Resource) :
    citeInText source state around history draft occurrence resource =
      draft.print (printInText source state around history
        (draft.members.getLast?.bind (·.lead)) occurrence resource) := by
  rw [GroupDraft.print, Printed.append_member]
  rfl

theorem splitLocator_eq_some {options : CitationOptions} {variant : Variant}
    {mention : Option Nat} {prepared : Prepared} {splice : Splice}
    (h : (splitLocator options around variant mention prepared).2 = some splice) :
    variant = .followCreator ∧ options.followCreatorPageSplit = true ∧
      ∃ place pages, mention = some place ∧ around.passed ≤ place ∧
        prepared.item.stored.get? "pages".toList = some pages ∧
        splice = ⟨place - around.passed,
          ' ' :: options.firstChars ++ pages ++ options.lastChars⟩ := by
  simp only [splitLocator] at h
  split at h
  · next hsplit =>
    simp only [Bool.and_eq_true, decide_eq_true_eq] at hsplit
    split at h
    · next place pages hplace hpages =>
      simp only [Option.filter_eq_some_iff, decide_eq_true_eq] at hplace
      exact ⟨hsplit.1, hsplit.2, place, pages, hplace.1, hplace.2, hpages,
        (Option.some.inj h).symm⟩
    · simp at h
  · simp at h

theorem moves_printInText {history : History} {last : Option Text} {occurrence : Occurrence}
    {resource : Resource} {splice : Splice}
    (h : (printInText source state around history last occurrence resource).splice =
      some splice) :
    (printInText source state around history last occurrence resource).Moves source state
      around splice := by
  obtain ⟨hvariant, hsplit, place, pages, hmention, hpassed, hpages, rfl⟩ :=
    splitLocator_eq_some h
  exact ⟨hvariant, hsplit, ⟨place, hmention, hpassed, rfl⟩, pages, hpages, rfl⟩

-- What a group has come to is what its citations printed.
structure GroupDraft.Prints (source : Source) (state : Disambiguation) (around : Surroundings)
    (occurrences : List Occurrence) (draft : GroupDraft) (printed : List Printed) : Prop where
  known : printed.map (·.occurrence) = source.known occurrences
  found : ∀ entry ∈ printed, source.library.get? entry.occurrence.id = some entry.resource
  moved : ∀ entry ∈ printed, ∀ splice ∈ entry.splice, entry.Moves source state around splice
  members : draft.members = printed.filterMap Printed.member?
  splices : draft.splices = printed.filterMap (·.splice)
  citations : draft.citations = printed.map Printed.cited

theorem GroupDraft.Prints.print {occurrences : List Occurrence} {draft : GroupDraft}
    {printed : List Printed} {occurrence : Occurrence} {resource : Resource}
    (hprints : draft.Prints source state around occurrences printed) (history : History)
    (last : Option Text) (h : source.library.get? occurrence.id = some resource) :
    (draft.print (printInText source state around history last occurrence resource)).Prints
      source state around (occurrences ++ [occurrence])
      (printed ++ [printInText source state around history last occurrence resource]) := by
  constructor
  case known =>
    rw [List.map_append, hprints.known, source.known_concat_of_get? _ h]
    rfl
  case found =>
    simp only [List.mem_append, List.mem_singleton]
    rintro entry (hmem | rfl)
    · exact hprints.found entry hmem
    · exact h
  case moved =>
    simp only [List.mem_append, List.mem_singleton]
    rintro entry (hmem | rfl)
    · exact hprints.moved entry hmem
    · exact fun splice hsplice => moves_printInText hsplice
  case members => rw [GroupDraft.print, hprints.members, List.filterMap_append]; rfl
  case splices => rw [GroupDraft.print, hprints.splices, List.filterMap_append]; rfl
  case citations => rw [GroupDraft.print, hprints.citations, List.map_append]; rfl

-- A citation of an unknown resource prints nothing.
theorem GroupDraft.Prints.pass {occurrences : List Occurrence} {draft : GroupDraft}
    {printed : List Printed} {occurrence : Occurrence}
    (hprints : draft.Prints source state around occurrences printed)
    (h : source.library.get? occurrence.id = none) :
    ({ draft with unknown := draft.unknown ++ [occurrence.id] } : GroupDraft).Prints source
      state around (occurrences ++ [occurrence]) printed :=
  { hprints with known := by rw [hprints.known, source.known_concat_of_not_get? _ h] }

-- The creators of the last member of a group.
def lastLead (printed : List Printed) : Option Text :=
  (printed.filterMap Printed.member?).getLast?.bind (·.lead)

-- A history knows of the resources that were printed.
def Remembers (history : History) (printed : List Printed) : Prop :=
  ∀ id, history.wasCited id = true ↔ ∃ entry ∈ printed, entry.occurrence.id = id

theorem Remembers.start : Remembers {} [] := by
  intro id
  simp

theorem Remembers.record {history : History} {printed : List Printed}
    (h : Remembers history printed) (entry : Printed) (pages : Option Text) :
    Remembers (history.record entry.occurrence.id pages) (printed ++ [entry]) := by
  intro id
  rw [History.wasCited_record, Bool.or_eq_true, decide_eq_true_eq, h id]
  simp only [List.mem_append, List.mem_singleton, or_and_right, exists_or, exists_eq_left]
  rw [or_comm, eq_comm]

-- The citations of a group are printed one after the other, each of them as what
-- was printed before it decides, in its group and, `earlier`, in the groups before.
inductive PrintsInTurn (source : Source) (state : Disambiguation) (around : Surroundings)
    (earlier : List Printed) : List Printed → Prop
  | none : PrintsInTurn source state around earlier []
  | next {printed : List Printed} {history : History} (occurrence : Occurrence)
      (resource : Resource) (h : PrintsInTurn source state around earlier printed)
      (hhistory : Remembers history (earlier ++ printed)) :
      PrintsInTurn source state around earlier
        (printed ++ [printInText source state around history (lastLead printed) occurrence
          resource])

theorem PrintsInTurn.eq_printInText {earlier printed before after : List Printed} {entry : Printed}
    (h : PrintsInTurn source state around earlier printed)
    (hsplit : printed = before ++ entry :: after) :
    ∃ history, Remembers history (earlier ++ before) ∧
      entry = printInText source state around history (lastLead before) entry.occurrence
        entry.resource := by
  induction h generalizing after with
  | none => simp at hsplit
  | @next printed history occurrence resource _ hhistory ih =>
    rcases List.eq_nil_or_concat after with rfl | ⟨init, last, rfl⟩
    · obtain ⟨rfl, hentry⟩ := List.append_inj' hsplit rfl
      obtain ⟨rfl, -⟩ := List.cons.inj hentry
      exact ⟨history, hhistory, rfl⟩
    · rw [List.concat_eq_append, ← List.cons_append, ← List.append_assoc] at hsplit
      exact ih (List.append_inj' hsplit rfl).1

theorem citeGroup_concat (progress : History × GroupDraft) (occurrences : List Occurrence)
    (occurrence : Occurrence) :
    citeGroup source state around progress (occurrences ++ [occurrence]) =
      citeMember source state around (citeGroup source state around progress occurrences)
        occurrence := by
  simp [citeGroup]

-- What a group prints, and what is known of it in the groups that follow.
theorem prints_citeGroup (source : Source) (state : Disambiguation) (around : Surroundings)
    {history : History} {earlier : List Printed} (hhistory : Remembers history earlier)
    (occurrences : List Occurrence) :
    ∃ printed,
      (citeGroup source state around (history, {}) occurrences).2.Prints source state around
        occurrences printed ∧
      PrintsInTurn source state around earlier printed ∧
      Remembers (citeGroup source state around (history, {}) occurrences).1
        (earlier ++ printed) := by
  induction occurrences using List.reverseRecOn with
  | nil =>
    refine ⟨[], ⟨rfl, by simp, by simp, rfl, rfl, rfl⟩, .none, ?_⟩
    rw [List.append_nil]
    exact hhistory
  | append_singleton occurrences occurrence ih =>
    obtain ⟨printed, hprints, hturn, hremembers⟩ := ih
    rw [citeGroup_concat]
    generalize citeGroup source state around (history, {}) occurrences = progress
      at hprints hremembers ⊢
    cases h : source.library.get? occurrence.id with
    | none =>
      simp only [citeMember, h]
      exact ⟨printed, hprints.pass h, hturn, hremembers⟩
    | some resource =>
      simp only [citeMember, h, citeInText_eq, hprints.members]
      have hrecord := hremembers.record
        (printInText source state around progress.1 (lastLead printed) occurrence resource)
        occurrence.pages?
      rw [List.append_assoc] at hrecord
      exact ⟨_, hprints.print _ _ h, hturn.next occurrence resource hremembers, hrecord⟩

end Referencing.Citation
