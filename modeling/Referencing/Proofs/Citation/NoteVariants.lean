import Referencing.Proofs.Citation.Ambiguity
import Referencing.Proofs.Citation.Endnotes

namespace Referencing.Citation

open Markup

variable {source : Source} {state : Disambiguation}

-- The occurrence just before is of the same resource, and has the same locator.
def RepeatsLocator (source : Source) (earlier : List Occurrence) (occurrence : Occurrence) :
    Prop :=
  ∃ previous ∈ earlier.getLast?, source.knows previous ∧ previous.id = occurrence.id ∧
    previous.locator = occurrence.locator

-- The occurrence just before is of the same resource, but has another locator.
def ChangesLocator (source : Source) (earlier : List Occurrence) (occurrence : Occurrence) :
    Prop :=
  ∃ previous ∈ earlier.getLast?, source.knows previous ∧ previous.id = occurrence.id ∧
    previous.locator ≠ occurrence.locator

-- The resource has been cited, but not just before.
def ReturnsTo (source : Source) (earlier : List Occurrence) (occurrence : Occurrence) : Prop :=
  (¬∃ previous ∈ earlier.getLast?, source.knows previous ∧ previous.id = occurrence.id) ∧
    ∃ other ∈ earlier, other.id = occurrence.id

section

variable (earlier : List Occurrence) (occurrence : Occurrence)

instance : Decidable (RepeatsLocator source earlier occurrence) := by
  unfold RepeatsLocator
  infer_instance

instance : Decidable (ChangesLocator source earlier occurrence) := by
  unfold ChangesLocator
  infer_instance

instance : Decidable (ReturnsTo source earlier occurrence) := by
  unfold ReturnsTo
  infer_instance

end

-- The variant of a note that is not abbreviated.
def fullNoteVariant (source : Source) (document : Document) (occurrence : Occurrence)
    (resource : Resource) : Variant :=
  let options := source.style.citation
  let type := typeOf occurrence resource
  if options.ambiguity = .template ∧
      Disambiguation.SharesIdentity source.library options document.citations occurrence.id ∧
      source.compiled.citation.ambiguous.isSome then .ambiguous
  else if source.compiled.footnoteTemplate? type = none ∧
      (source.compiled.citation.byType.get? type).isSome then .typeReplacement
  else .base

-- The variant of a note as the document before it decides. Notes that are merely
-- counted are not abbreviated, nor is a note for which the style has no template.
def noteVariant (source : Source) (document : Document) (earlier : List Occurrence)
    (occurrence : Occurrence) (resource : Resource) : Variant :=
  let abbreviates := source.style.citation.endnoteStyle ≠ .incrementing
  let templates := source.compiled.citation
  if abbreviates ∧ RepeatsLocator source earlier occurrence ∧ templates.ibid.isSome then .ibid
  else if abbreviates ∧ ChangesLocator source earlier occurrence ∧ templates.idem.isSome then .idem
  else if abbreviates ∧ ReturnsTo source earlier occurrence ∧ templates.opCit.isSome then .opCit
  else fullNoteVariant source document occurrence resource

-- What is held of the last citation is what stood just before.
theorem repeatsLast?_notesAfter (earlier : List Occurrence) (occurrence : Occurrence) :
    (notesAfter source state earlier).1.repeatsLast? occurrence.id occurrence.pages? =
      if RepeatsLocator source earlier occurrence then some true
      else if ChangesLocator source earlier occurrence then some false
      else none := by
  rw [History.repeatsLast?, lastCitation_notesAfter]
  cases hlast : earlier.getLast? with
  | none => simp [RepeatsLocator, ChangesLocator, hlast]
  | some previous =>
    by_cases hknows : source.knows previous = true
    · by_cases hid : previous.id = occurrence.id
      · by_cases hlocator : previous.locator = occurrence.locator
        · simp [RepeatsLocator, hlast, Option.filter, hknows, hid, Occurrence.pages?_eq_iff,
            hlocator]
        · simp [RepeatsLocator, ChangesLocator, hlast, Option.filter, hknows, hid,
            Occurrence.pages?_eq_iff, hlocator]
      · simp [RepeatsLocator, ChangesLocator, hlast, Option.filter, hknows, hid]
    · simp [RepeatsLocator, ChangesLocator, hlast, Option.filter, hknows]

theorem wasCited_notesAfter_iff {occurrence : Occurrence} {resource : Resource}
    (earlier : List Occurrence) (h : source.library.get? occurrence.id = some resource) :
    (notesAfter source state earlier).1.wasCited occurrence.id = true ↔
      ∃ other ∈ earlier, other.id = occurrence.id := by
  rw [wasCited_notesAfter, decide_eq_true_iff, Source.mem_known_ids_iff h]

theorem returnsTo_iff {earlier : List Occurrence} {occurrence : Occurrence}
    (hrepeats : ¬RepeatsLocator source earlier occurrence)
    (hchanges : ¬ChangesLocator source earlier occurrence) :
    ReturnsTo source earlier occurrence ↔ ∃ other ∈ earlier, other.id = occurrence.id := by
  refine ⟨And.right, fun h => ⟨?_, h⟩⟩
  rintro ⟨previous, hlast, hknows, hid⟩
  by_cases hlocator : previous.locator = occurrence.locator
  · exact hrepeats ⟨previous, hlast, hknows, hid, hlocator⟩
  · exact hchanges ⟨previous, hlast, hknows, hid, hlocator⟩

-- The three kinds of repetition exclude each other.
theorem not_changesLocator {earlier : List Occurrence} {occurrence : Occurrence}
    (h : RepeatsLocator source earlier occurrence) : ¬ChangesLocator source earlier occurrence := by
  rintro ⟨other, hother, -, -, hne⟩
  obtain ⟨previous, hprevious, -, -, hsame⟩ := h
  rw [Option.mem_def] at hother hprevious
  rw [hprevious, Option.some.injEq] at hother
  exact hne (hother ▸ hsame)

theorem not_returnsTo_of_repeats {earlier : List Occurrence} {occurrence : Occurrence}
    (h : RepeatsLocator source earlier occurrence) : ¬ReturnsTo source earlier occurrence := by
  obtain ⟨previous, hprevious, hknows, hid, -⟩ := h
  exact fun hreturns => hreturns.1 ⟨previous, hprevious, hknows, hid⟩

theorem not_returnsTo_of_changes {earlier : List Occurrence} {occurrence : Occurrence}
    (h : ChangesLocator source earlier occurrence) : ¬ReturnsTo source earlier occurrence := by
  obtain ⟨previous, hprevious, hknows, hid, -⟩ := h
  exact fun hreturns => hreturns.1 ⟨previous, hprevious, hknows, hid⟩

theorem abbreviation?_notesAfter {occurrence : Occurrence} {resource : Resource}
    (earlier : List Occurrence) (h : source.library.get? occurrence.id = some resource)
    (hstyle : source.style.citation.endnoteStyle ≠ .incrementing) :
    abbreviation? source (notesAfter source state earlier).1 occurrence =
      if RepeatsLocator source earlier occurrence then
        if source.compiled.citation.ibid.isSome then some .ibid else none
      else if ChangesLocator source earlier occurrence then
        if source.compiled.citation.idem.isSome then some .idem else none
      else if ReturnsTo source earlier occurrence ∧ source.compiled.citation.opCit.isSome then
        some .opCit
      else none := by
  simp only [abbreviation?, hstyle, if_false, repeatsLast?_notesAfter]
  by_cases hrepeats : RepeatsLocator source earlier occurrence
  · simp only [hrepeats, if_true]
  · by_cases hchanges : ChangesLocator source earlier occurrence
    · simp only [hrepeats, hchanges, if_true, if_false]
    · simp only [hrepeats, hchanges, if_false, Bool.and_eq_true,
        wasCited_notesAfter_iff earlier h, returnsTo_iff hrepeats hchanges]

theorem chooseNote_eq (document : Document) (history : History) (occurrence : Occurrence)
    (resource : Resource) :
    chooseNote source (source.disambiguation document) history occurrence resource =
      (abbreviation? source history occurrence).getD
        (fullNoteVariant source document occurrence resource) := by
  simp only [chooseNote, fullNoteVariant, usesAmbiguous_disambiguation_iff, Bool.and_eq_true,
    Option.isNone_iff_eq_none, Dict.contains_eq_isSome]

theorem chooseNote_notesAfter {occurrence : Occurrence} {resource : Resource}
    (document : Document) (earlier : List Occurrence)
    (h : source.library.get? occurrence.id = some resource) :
    chooseNote source (source.disambiguation document) (notesAfter source state earlier).1
        occurrence resource =
      noteVariant source document earlier occurrence resource := by
  rw [chooseNote_eq]
  unfold noteVariant
  by_cases hstyle : source.style.citation.endnoteStyle = .incrementing
  · simp [abbreviation?, hstyle]
  rw [abbreviation?_notesAfter earlier h hstyle]
  by_cases hrepeats : RepeatsLocator source earlier occurrence
  · have hchanges := not_changesLocator hrepeats
    have hreturns := not_returnsTo_of_repeats hrepeats
    by_cases hibid : source.compiled.citation.ibid.isSome <;>
      simp [hstyle, hrepeats, hchanges, hreturns, hibid]
  · by_cases hchanges : ChangesLocator source earlier occurrence
    · have hreturns := not_returnsTo_of_changes hchanges
      by_cases hidem : source.compiled.citation.idem.isSome <;>
        simp [hstyle, hrepeats, hchanges, hreturns, hidem]
    · by_cases hopCit : ReturnsTo source earlier occurrence ∧
          source.compiled.citation.opCit.isSome = true
      · simp [hstyle, hrepeats, hchanges, hopCit]
      · simp [hstyle, hrepeats, hchanges, hopCit]

theorem fullNoteVariant_not_abbreviated (document : Document) (occurrence : Occurrence)
    (resource : Resource) :
    fullNoteVariant source document occurrence resource ∉ [.ibid, .idem, .opCit] := by
  simp only [fullNoteVariant]
  split
  · simp
  · split <;> simp

-- The first citation of a resource is no repetition of any kind.
theorem noteVariant_of_not_cited {document : Document} {earlier : List Occurrence}
    {occurrence : Occurrence} {resource : Resource}
    (h : ∀ other ∈ earlier, other.id ≠ occurrence.id) :
    noteVariant source document earlier occurrence resource ∉ [.ibid, .idem, .opCit] := by
  have hlast : ∀ previous ∈ earlier.getLast?, previous.id ≠ occurrence.id :=
    fun previous hprevious => h previous (List.mem_of_getLast? hprevious)
  have hrepeats : ¬RepeatsLocator source earlier occurrence :=
    fun ⟨previous, hprevious, _, hid, _⟩ => hlast previous hprevious hid
  have hchanges : ¬ChangesLocator source earlier occurrence :=
    fun ⟨previous, hprevious, _, hid, _⟩ => hlast previous hprevious hid
  have hreturns : ¬ReturnsTo source earlier occurrence :=
    fun ⟨_, other, hother, hid⟩ => h other hother hid
  unfold noteVariant
  simp only [hrepeats, hchanges, hreturns, false_and, and_false, if_false]
  exact fullNoteVariant_not_abbreviated document occurrence resource

theorem noteVariant_of_incrementing {document : Document} {earlier : List Occurrence}
    {occurrence : Occurrence} {resource : Resource}
    (h : source.style.citation.endnoteStyle = .incrementing) :
    noteVariant source document earlier occurrence resource ∉ [.ibid, .idem, .opCit] := by
  unfold noteVariant
  simp only [h, ne_eq, not_true_eq_false, false_and, if_false]
  exact fullNoteVariant_not_abbreviated document occurrence resource

-- The variant of every citation depends on the occurrences before it, and on the
-- document only for what is ambiguous.
theorem renderDocument_noteVariant (source : Source) (format : Format) (document : Document)
    (session : Session) {earlier later : List Occurrence} {occurrence : Occurrence}
    {resource : Resource} (hmode : source.style.citation.mode = .endnote)
    (hdocument : document.citations = earlier ++ occurrence :: later)
    (hresource : source.library.get? occurrence.id = some resource) :
    ∃ cited,
      (renderDocument source format document session).2.citations[
        (source.known earlier).length]? = some cited ∧
      cited.id = occurrence.id ∧
      cited.variant = noteVariant source document earlier occurrence resource ∧
      (source.style.citation.endnoteStyle = .incrementing →
        cited.variant ∉ [.ibid, .idem, .opCit]) ∧
      ((∀ other ∈ earlier, other.id ≠ occurrence.id) →
        cited.variant ∉ [.ibid, .idem, .opCit]) := by
  obtain ⟨cited, hcited, hid, hvariant⟩ : ∃ cited,
      (renderDocument source format document session).2.citations[
        (source.known earlier).length]? = some cited ∧
      cited.id = occurrence.id ∧
      cited.variant = noteVariant source document earlier occurrence resource := by
    obtain ⟨number, hcited⟩ := getElem?_citations_notesAfter (source.disambiguation document)
      earlier later hresource
    rw [renderDocument_of_endnote format document session hmode, draftEndnotes_eq,
      citations_export_finish, List.getElem?_map, hdocument, hcited]
    exact ⟨_, rfl, rfl, chooseNote_notesAfter document earlier hresource⟩
  refine ⟨cited, hcited, hid, hvariant, fun hstyle => ?_, fun hfirst => ?_⟩
  · rw [hvariant]
    exact noteVariant_of_incrementing hstyle
  · rw [hvariant]
    exact noteVariant_of_not_cited hfirst

-- After a citation of an unknown resource a repetition is no longer one of the
-- citation just before.
theorem noteVariant_after_unknown :
    let options : CitationOptions :=
      { mode := .endnote, endnoteStyle := .footnote, ibidTemplate := some "Ibid".toList,
        opCitTemplate := some "op. cit.".toList }
    let source := Source.make { citation := options } (Library.ofList [{ id := ['a'] }])
    let document : Document := { citations := [{ id := ['a'] }, { id := ['b'] }, { id := ['a'] }] }
    source.style.citation.mode = .endnote ∧
      document.citations = [{ id := ['a'] }, { id := ['b'] }] ++ { id := ['a'] } :: [] ∧
      source.library.get? ['a'] = some { id := ['a'] } ∧
      ((renderDocument source .plain document {}).2.citations[1]?).map (·.variant) =
        some .opCit := by
  intro options source document
  refine ⟨rfl, rfl, rfl, ?_⟩
  have hdocument : document.citations =
      [{ id := ['a'] }, { id := ['b'] }] ++ { id := ['a'] } :: [] := rfl
  have hresource : source.library.get? ['a'] = some { id := ['a'] } := rfl
  obtain ⟨cited, hcited, -, hvariant, -⟩ :=
    renderDocument_noteVariant source .plain document {} rfl hdocument hresource
  have hindex : (source.known [{ id := ['a'] }, { id := ['b'] }]).length = 1 := by decide
  rw [hindex] at hcited
  rw [hcited, Option.map_some, hvariant]
  decide

end Referencing.Citation
