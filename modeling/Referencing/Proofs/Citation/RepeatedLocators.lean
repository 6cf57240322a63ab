import Referencing.Proofs.Citation.NoteVariants
import Referencing.Proofs.Value.Overlay

namespace Referencing

open Text Value Markup

-- The locator of a citation as it is printed.
def Occurrence.printedLocator (form : PageForm) (occurrence : Occurrence) : Text :=
  (layoutPages form occurrence.locator).text

namespace Value

-- Whatever an occurrence is laid over, its locator is what is printed for the pages.
theorem pages_overlay (form : PageForm) (occurrence : Occurrence) (prepared : Prepared) :
    ((overlay form occurrence.values prepared).item.get? "pages".toList).getD [] =
      occurrence.printedLocator form := by
  have hpages : occurrence.values.get? "pages".toList = occurrence.pages? := rfl
  rw [get?_overlay, if_pos rfl, hpages, occurrence.pages?_eq, Occurrence.printedLocator]
  by_cases hlocator : occurrence.locator = []
  · rw [if_pos hlocator, hlocator]
    cases form <;> rfl
  · rw [if_neg hlocator, Option.map_some]
    by_cases hprinted : (layoutPages form occurrence.locator).text = []
    · simp [Option.filter, hprinted]
    · simp [Option.filter, hprinted]

end Value

namespace Citation

variable {source : Source} {document : Document} {earlier later : List Occurrence}
  {first second : Occurrence} {resource : Resource}

-- A note stands where its occurrence does among those that are cited, in the variant that the
-- document before it decides.
theorem exists_cited_note (format : Format) (session : Session) {occurrence : Occurrence}
    (hmode : source.style.citation.mode = .endnote)
    (hdocument : document.citations = earlier ++ occurrence :: later)
    (hresource : source.library.get? occurrence.id = some resource) :
    ∃ cited,
      (renderDocument source format document session).2.citations[
        (source.known earlier).length]? = some cited ∧
      cited.id = occurrence.id ∧
      cited.variant = noteVariant source document earlier occurrence resource := by
  obtain ⟨number, hcited⟩ := getElem?_citations_notesAfter (source.disambiguation document)
    earlier later hresource
  rw [renderDocument_of_endnote format document session hmode, draftEndnotes_eq,
    citations_export_finish, List.getElem?_map, hdocument, hcited]
  exact ⟨_, rfl, rfl, chooseNote_notesAfter document earlier hresource⟩

-- Right after a citation of the same resource nothing but the two locators counts.
theorem noteVariant_of_repeated (document : Document) (earlier : List Occurrence)
    (hstyle : source.style.citation.endnoteStyle ≠ .incrementing)
    (hibid : source.compiled.citation.ibid.isSome) (hidem : source.compiled.citation.idem.isSome)
    (hid : first.id = second.id) (hresource : source.library.get? second.id = some resource) :
    noteVariant source document (earlier ++ [first]) second resource =
      if first.locator = second.locator then .ibid else .idem := by
  have hknows : source.knows first := source.knows_of_get? (hid ▸ hresource)
  have hlast : first ∈ (earlier ++ [first]).getLast? := by simp
  unfold noteVariant
  by_cases hlocator : first.locator = second.locator
  · have hrepeats : RepeatsLocator source (earlier ++ [first]) second :=
      ⟨first, hlast, hknows, hid, hlocator⟩
    rw [if_pos hlocator, if_pos ⟨hstyle, hrepeats, hibid⟩]
  · have hchanges : ChangesLocator source (earlier ++ [first]) second :=
      ⟨first, hlast, hknows, hid, hlocator⟩
    have hrepeats : ¬RepeatsLocator source (earlier ++ [first]) second :=
      fun h => not_changesLocator h hchanges
    rw [if_neg hlocator, if_neg (fun h => hrepeats h.2.1), if_pos ⟨hstyle, hchanges, hidem⟩]

-- Locators are compared as they were entered, whatever they are printed as. What is entered
-- alike is printed alike, and so of two citations that follow each other with locators that
-- are printed alike only those are a repetition that are entered alike too; as they all are
-- where they were entered in the form in which they are printed.
theorem ibid_iff_locator_eq (source : Source) (format : Format) (document : Document)
    (session : Session) {earlier later : List Occurrence} {first second : Occurrence}
    {resource : Resource} (hmode : source.style.citation.mode = .endnote)
    (hstyle : source.style.citation.endnoteStyle ≠ .incrementing)
    (hibid : source.compiled.citation.ibid.isSome) (hidem : source.compiled.citation.idem.isSome)
    (hdocument : document.citations = earlier ++ first :: second :: later)
    (hid : first.id = second.id) (hresource : source.library.get? second.id = some resource) :
    ∃ cited,
      (renderDocument source format document session).2.citations[
        (source.known (earlier ++ [first])).length]? = some cited ∧
      cited.id = second.id ∧
      (cited.variant = .ibid ↔ first.locator = second.locator) ∧
      (cited.variant = .idem ↔ first.locator ≠ second.locator) ∧
      ∀ form,
        (cited.variant = .ibid → first.printedLocator form = second.printedLocator form) ∧
        (first.printedLocator form = second.printedLocator form →
          first.printedLocator form = first.locator →
          second.printedLocator form = second.locator → cited.variant = .ibid) ∧
        ∀ occurrence ∈ [first, second], ∀ prepared,
          ((overlay form occurrence.values prepared).item.get? "pages".toList).getD [] =
            occurrence.printedLocator form := by
  have hsplit : document.citations = (earlier ++ [first]) ++ second :: later := by
    rw [hdocument, List.append_assoc, List.singleton_append]
  obtain ⟨cited, hcited, hcitedId, hvariant⟩ :=
    exists_cited_note format session hmode hsplit hresource
  rw [noteVariant_of_repeated document earlier hstyle hibid hidem hid hresource] at hvariant
  have hiff : cited.variant = .ibid ↔ first.locator = second.locator := by
    rw [hvariant]
    by_cases hlocator : first.locator = second.locator <;> simp [hlocator]
  refine ⟨cited, hcited, hcitedId, hiff, ?_, fun form => ⟨fun hvariant => ?_, ?_, ?_⟩⟩
  · rw [hvariant]
    by_cases hlocator : first.locator = second.locator <;> simp [hlocator]
  · rw [Occurrence.printedLocator, hiff.1 hvariant, Occurrence.printedLocator]
  · intro hprinted hfirst hsecond
    exact hiff.2 (hfirst.symm.trans (hprinted.trans hsecond))
  · exact fun occurrence _ prepared => pages_overlay form occurrence prepared

-- After a citation of another resource a range is cited twice.
theorem ibid_of_same_range :
    let options : CitationOptions :=
      { mode := .endnote, endnoteStyle := .sameId, pageForm := .abbreviated,
        ibidTemplate := some "Ibid|.".toList, idemTemplate := some "Idem|, pages|.".toList }
    let library := Library.ofList [{ id := ['a'] }, { id := ['b'] }]
    let source := Source.make { citation := options } library
    let range := Item.ofList [("pages".toList, "132--139".toList)]
    let document : Document :=
      { citations := [{ id := ['b'] }, { id := ['a'], values := range },
          { id := ['a'], values := range }] }
    ((renderDocument source .plain document {}).2.citations[2]?).map (·.variant) = some .ibid := by
  intro options library source range document
  have hdocument : document.citations =
      [{ id := ['b'] }] ++ { id := ['a'], values := range } ::
        { id := ['a'], values := range } :: [] := rfl
  have hresource : source.library.get? ['a'] = some { id := ['a'] } := rfl
  obtain ⟨cited, hcited, -, hibid, -⟩ := ibid_iff_locator_eq source .plain document {} rfl
    (by decide) (by decide) (by decide) hdocument rfl hresource
  have hindex : (source.known ([{ id := ['b'] }] ++ [{ id := ['a'], values := range }])).length =
      2 := by decide
  rw [hindex] at hcited
  rw [hcited, Option.map_some, hibid.2 rfl]

-- A hyphen and a dash between the same pages are printed alike, but count as two locators.
theorem idem_of_other_dash :
    let options : CitationOptions :=
      { mode := .endnote, endnoteStyle := .footnote,
        ibidTemplate := some "Ibid|.".toList, idemTemplate := some "Idem|, pages|.".toList }
    let source := Source.make { citation := options } (Library.ofList [{ id := ['a'] }])
    let cited (pages : String) : Occurrence :=
      { id := ['a'], values := .ofList [("pages".toList, pages.toList)] }
    let document : Document := { citations := [cited "12-13", cited "12–13"] }
    (∀ form, (cited "12-13").printedLocator form = (cited "12–13").printedLocator form) ∧
      ((renderDocument source .plain document {}).2.citations[1]?).map (fun second =>
        (second.variant, second.text)) = some (.idem, "Idem, 12–13.".toList) := by
  intro options source cited document
  refine ⟨fun form => ?_, by decide +kernel⟩
  cases form <;> decide +kernel

end Citation

end Referencing
