import Mathlib.Data.List.Basic
import Referencing.Citation.Document
import Referencing.Proofs.Citation.Passages

namespace Referencing.Citation

open Text Markup

variable {source : Source}

-- Neighbours in a group that are of the same creators.
def Member.SameLead (left right : Member) : Prop :=
  ∃ lead, left.lead = some lead ∧ right.lead = some lead

-- The citations of a group with one separator between neighbours.
inductive Joined (options : CitationOptions) : List Member → Text → Prop
  | none : Joined options [] []
  | one (member : Member) : Joined options [member] member.text
  | sameLead {left right : Member} {rest : List Member} {text : Text} :
      left.SameLead right → Joined options (right :: rest) text →
      Joined options (left :: right :: rest) (left.text ++ options.creatorSeparator ++ text)
  | otherLead {left right : Member} {rest : List Member} {text : Text} :
      ¬left.SameLead right → Joined options (right :: rest) text →
      Joined options (left :: right :: rest) (left.text ++ options.citationSeparator ++ text)

theorem separator_eq_of_sameLead {left right : Member} (options : CitationOptions)
    (h : left.SameLead right) : separator options left right = options.creatorSeparator := by
  obtain ⟨lead, hleft, hright⟩ := h
  simp [separator, hleft, hright]

theorem separator_eq_of_not_sameLead {left right : Member} (options : CitationOptions)
    (h : ¬left.SameLead right) : separator options left right = options.citationSeparator := by
  rw [separator, if_neg]
  simp only [Bool.and_eq_true, decide_eq_true_eq, Option.isSome_iff_exists]
  rintro ⟨⟨lead, hright⟩, hsame⟩
  exact h ⟨lead, hsame ▸ hright, hright⟩

theorem joined_joinMembers (options : CitationOptions) (members : List Member) :
    Joined options members (joinMembers options members) := by
  fun_induction joinMembers options members with
  | case1 => exact .none
  | case2 only => exact .one only
  | case3 left right rest ih =>
    by_cases h : left.SameLead right
    · rw [separator_eq_of_sameLead options h]
      exact .sameLead h ih
    · rw [separator_eq_of_not_sameLead options h]
      exact .otherLead h ih

section Export

variable (options : CitationOptions) (format : Format)

def Cut.written (cut : Cut) : Text :=
  cut.prose ++ format.export cut.splice.text

-- The prose of a passage with the locators as a medium writes them.
def Passage.written (passage : Passage) : Text :=
  passage.cuts.flatMap (Cut.written format) ++ passage.rest

-- The citations of a passage in brackets; nothing if all are blank.
def Passage.bracket (passage : Passage) : Text :=
  if passage.members = [] then []
  else format.export
    (options.firstChars ++ joinMembers options passage.members ++ options.lastChars)

def Passage.export (passage : Passage) : Text :=
  passage.written format ++ passage.bracket options format

theorem export_cut_stretches (cuts : List Cut) :
    (cuts.flatMap Cut.stretches).flatMap (Stretch.export format) =
      cuts.flatMap (Cut.written format) := by
  rw [List.flatMap_assoc]
  congr 1
  funext cut
  simp [Cut.stretches, Cut.written, Stretch.export]

theorem export_passage_stretches (passages : List Passage) :
    (passages.flatMap (Passage.stretches options)).flatMap (Stretch.export format) =
      passages.flatMap (Passage.export options format) := by
  rw [List.flatMap_assoc]
  congr 1
  funext passage
  by_cases h : passage.members = [] <;>
    simp [Passage.stretches, Passage.export, Passage.written, Passage.bracket, h,
      export_cut_stretches, Stretch.export]

end Export

-- How the text of a document is put together from passages: the prose of each
-- with its locators put in, and its citations.
structure KeepsProse (source : Source) (format : Format) (document : Document) (output : Output)
    (passages : List Passage) : Prop where
  -- A passage begins at the first occurrence and wherever prose that is not blank
  -- stands before one.
  grouped : passages.flatMap (·.group.occurrences) = document.citations
  joining : ∀ passage ∈ passages, ∀ other ∈ passage.group.others,
    isBlankText other.textBefore = true
  parted : ∀ passage ∈ passages.tail, isBlankText passage.group.first.textBefore = false
  -- The occurrences of known resources are what is printed.
  known : ∀ passage ∈ passages,
    passage.printed.map (·.occurrence) = source.known passage.group.occurrences
  found : ∀ passage ∈ passages, ∀ printed ∈ passage.printed,
    source.library.get? printed.occurrence.id = some printed.resource
  citations : output.citations =
    passages.flatMap fun passage => passage.printed.map (·.cited.export format)
  -- Without the locators that are put in the prose is as it was.
  prose : ∀ passage ∈ passages,
    passage.cuts.flatMap (·.prose) ++ passage.rest = passage.group.first.textBefore
  splices : ∀ passage ∈ passages,
    (passage.cuts.map (·.splice)).Perm (passage.printed.filterMap (·.splice))
  locators : ∀ passage ∈ passages, ∀ printed ∈ passage.printed, ∀ splice ∈ printed.splice,
    ∃ pages,
      (source.prepare (source.disambiguation document) printed.occurrence
        printed.resource).item.stored.get? "pages".toList = some pages ∧
      splice.text =
        ' ' :: source.style.citation.firstChars ++ pages ++ source.style.citation.lastChars
  -- The citations that are not blank have one separator between neighbours.
  members : ∀ passage ∈ passages,
    Joined source.style.citation passage.members
      (joinMembers source.style.citation passage.members)
  text : output.text =
    passages.flatMap (Passage.export source.style.citation format) ++ document.tail

section Printed

variable {format : Format} {document : Document} {output : Output} {passages : List Passage}

-- What is printed in all passages is what the document cites, in its order.
theorem KeepsProse.occurrences_printedOf
    (h : KeepsProse source format document output passages) :
    (printedOf passages).map (·.occurrence) = source.known document.citations := by
  rw [← h.grouped, printedOf, List.map_flatMap, source.known_flatMap]
  exact List.flatMap_congr h.known

theorem KeepsProse.citations_eq (h : KeepsProse source format document output passages) :
    output.citations = (printedOf passages).map (·.cited.export format) := by
  rw [h.citations, printedOf, List.map_flatMap]

end Printed

theorem renderDocument_of_inText (format : Format) (document : Document) (session : Session)
    (h : source.style.citation.mode = .inText) :
    (renderDocument source format document session).2 =
      (draftInText source (source.disambiguation document) {} document).2.export format := by
  simp only [renderDocument, draftDocument, h]
  rfl

-- The passages of a document one after the other, whatever comes after them.
theorem exists_succeeding_passages (source : Source) (format : Format) (document : Document)
    (session : Session) (h : source.style.citation.mode = .inText) :
    ∃ passages : List Passage,
      KeepsProse source format document (renderDocument source format document session).2
        passages ∧
      ∀ earlier passage later, passages = earlier ++ passage :: later →
        passage.Succeeds source (source.disambiguation document) earlier := by
  obtain ⟨passages, hgroups, hsucceeds, hstretches, hcitations⟩ :=
    passages_draftGroups source (source.disambiguation document) [] .start {}
      (groups document.citations)
  simp only [List.nil_append, proseOf_nil] at hsucceeds hstretches hcitations
  have hmem : ∀ passage ∈ passages, ∃ prose,
      passage.Composes source (source.disambiguation document) prose := by
    intro passage hpassage
    obtain ⟨earlier, later, hsplit⟩ := List.append_of_mem hpassage
    exact ⟨_, (hsucceeds earlier passage later hsplit).composes⟩
  have hgroup : ∀ passage ∈ passages, passage.group ∈ groups document.citations := by
    intro passage hpassage
    rw [← hgroups]
    exact List.mem_map_of_mem hpassage
  rw [renderDocument_of_inText format document session h]
  refine ⟨passages, ?_, hsucceeds⟩
  constructor
  case grouped =>
    rw [← flatMap_groups document.citations, ← hgroups, List.flatMap_map]
  case joining =>
    intro passage hpassage
    exact isBlankText_of_mem_others _ (hgroup passage hpassage)
  case parted =>
    intro passage hpassage
    have htail : passage.group ∈ (groups document.citations).tail := by
      rw [← hgroups, ← List.map_tail]
      exact List.mem_map_of_mem hpassage
    exact not_isBlankText_of_mem_tail _ htail
  case known =>
    intro passage hpassage
    obtain ⟨prose, hprose⟩ := hmem passage hpassage
    exact hprose.known
  case found =>
    intro passage hpassage
    obtain ⟨prose, hprose⟩ := hmem passage hpassage
    exact hprose.found
  case citations =>
    simp only [draftInText, Draft.export, hcitations, List.map_flatMap, List.map_map]
    rfl
  case prose =>
    intro passage hpassage
    obtain ⟨prose, hprose⟩ := hmem passage hpassage
    exact hprose.prose
  case splices =>
    intro passage hpassage
    obtain ⟨prose, hprose⟩ := hmem passage hpassage
    exact hprose.locators
  case locators =>
    intro passage hpassage printed hprinted splice hsplice
    obtain ⟨prose, hprose⟩ := hmem passage hpassage
    exact (hprose.moved printed hprinted splice hsplice).text
  case members => exact fun passage _ => joined_joinMembers _ _
  case text =>
    simp only [draftInText, Draft.export, hstretches, List.flatMap_append,
      export_passage_stretches]
    simp [Stretch.export]

-- A passage is put together in the prose before it.
theorem exists_passages (source : Source) (format : Format) (document : Document)
    (session : Session) (h : source.style.citation.mode = .inText) :
    ∃ passages : List Passage,
      KeepsProse source format document (renderDocument source format document session).2
        passages ∧
      ∀ earlier passage later, passages = earlier ++ passage :: later →
        passage.Composes source (source.disambiguation document) (proseOf earlier) := by
  obtain ⟨passages, hkeeps, hsucceeds⟩ :=
    exists_succeeding_passages source format document session h
  exact ⟨passages, hkeeps, fun earlier passage later hsplit =>
    (hsucceeds earlier passage later hsplit).composes⟩

-- Whatever stands in the document, its prose comes out as it went in.
theorem renderDocument_keepsProse (source : Source) (format : Format) (document : Document)
    (session : Session) (h : source.style.citation.mode = .inText) :
    ∃ passages, KeepsProse source format document
      (renderDocument source format document session).2 passages := by
  obtain ⟨passages, hkeeps, -⟩ := exists_passages source format document session h
  exact ⟨passages, hkeeps⟩

-- A work of one author.
def workOf (id surname year : Text) : Resource where
  id := id
  values := .ofList [("year1".toList, year)]
  creatorLists := .ofList [("creator1".toList, [{ surname := surname }])]

-- A locator is put into the prose, and an unknown resource between two citations
-- leaves nothing.
theorem keepsProse_with_locator :
    let source := Source.make
      { citation := { followCreatorTemplate := some "year|: pages".toList
                      followCreatorPageSplit := true } }
      (.ofList [workOf ['a'] "Smith".toList "2004".toList, workOf ['b'] "Doe".toList "2010".toList])
    let document : Document :=
      { citations := [
          { id := ['a'], textBefore := "Smith says ".toList
            values := .ofList [("pages".toList, "12".toList)] },
          { id := ['c'] }, { id := ['b'], textBefore := [' '] }]
        tail := ['.'] }
    source.style.citation.mode = .inText ∧
      (∃ passages, KeepsProse source .plain document
        (renderDocument source .plain document {}).2 passages) ∧
      (renderDocument source .plain document {}).2.text =
        "Smith (12) says (2004; Doe 2010).".toList := by
  intro source document
  refine ⟨rfl, renderDocument_keepsProse source .plain document {} rfl, ?_⟩
  decide +kernel

end Referencing.Citation
