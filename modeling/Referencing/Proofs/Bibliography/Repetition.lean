import Referencing.Proofs.Bibliography.Entries

namespace Referencing.Bibliography

open Markup Value Citation

variable {source : Source} {format : Format} {state : Disambiguation}

-- A resource without an entry is not what the next one is compared with.
theorem entriesAfter_filter (previous : Option Resource) (resources : List Resource) :
    entriesAfter source format state previous (resources.filter (isListed source)) =
      entriesAfter source format state previous resources := by
  induction resources generalizing previous with
  | nil => rfl
  | cons resource rest ih =>
    cases htemplate : source.compiled.bibliographyTemplate? resource.type with
    | none =>
      have hlisted : ¬isListed source resource = true := by simp [isListed, htemplate]
      rw [List.filter_cons_of_neg hlisted, ih]
      simp only [entriesAfter, htemplate]
    | some template =>
      have hlisted : isListed source resource = true := by simp [isListed, htemplate]
      rw [List.filter_cons_of_pos hlisted]
      simp only [entriesAfter, htemplate, ih]

theorem ids_entriesAfter (previous : Option Resource) (resources : List Resource) :
    (entriesAfter source format state previous resources).map (·.id) =
      (resources.filter (isListed source)).map (·.id) := by
  induction resources generalizing previous with
  | nil => rfl
  | cons resource rest ih =>
    cases htemplate : source.compiled.bibliographyTemplate? resource.type with
    | none => simp [entriesAfter, isListed, htemplate, ih]
    | some template => simp [entriesAfter, isListed, htemplate, ih]

theorem length_entriesAfter {resources : List Resource} (previous : Option Resource)
    (h : ∀ resource ∈ resources, isListed source resource = true) :
    (entriesAfter source format state previous resources).length = resources.length := by
  have hids : (entriesAfter source format state previous resources).map (·.id) =
      resources.map (·.id) := by
    rw [ids_entriesAfter, List.filter_eq_self.2 h]
  simpa using congrArg List.length hids

theorem entriesAfter_append {left : List Resource} (previous : Option Resource)
    (right : List Resource) (h : ∀ resource ∈ left, isListed source resource = true) :
    entriesAfter source format state previous (left ++ right) =
      entriesAfter source format state previous left ++
        entriesAfter source format state (left.getLast?.or previous) right := by
  induction left generalizing previous with
  | nil => rfl
  | cons resource rest ih =>
    rw [List.forall_mem_cons] at h
    obtain ⟨template, htemplate⟩ := Option.isSome_iff_exists.1 h.1
    simp only [List.cons_append, entriesAfter, htemplate, ih _ h.2, List.getLast?_cons]
    cases rest.getLast? <;> rfl

theorem getElem?_entriesAfter {earlier later : List Resource} {resource : Resource}
    {template : Template} (hearlier : ∀ other ∈ earlier, isListed source other = true)
    (h : source.compiled.bibliographyTemplate? resource.type = some template) :
    (entriesAfter source format state none (earlier ++ resource :: later))[earlier.length]? =
      some ⟨resource.id,
        entryText source format state earlier.getLast? resource template⟩ := by
  have hlength : (entriesAfter source format state none earlier).length = earlier.length :=
    length_entriesAfter none hearlier
  rw [entriesAfter_append none _ hearlier, List.getElem?_append_right (by omega), hlength,
    Nat.sub_self, Option.or_none]
  simp only [entriesAfter, h, List.getElem?_cons_zero]

theorem get?_withLetter {field : String} {other : Text} (h : other ≠ field.toList)
    (letter : Option Text) (prepared : Prepared) :
    (withLetter field letter prepared).item.stored.get? other =
      prepared.item.stored.get? other := by
  unfold withLetter
  split
  · exact (Dict.get?_insert _ _ _ _).trans (if_neg h)
  · rfl

-- The creators that a template is given: where they are repeated, the same once more, or
-- what the style prints instead, or nothing.
theorem creators_handed (previous : Option Resource) (resource : Resource) :
    (handed source state previous resource).item.stored.get? "creator1".toList =
      if RepeatsCreators source previous resource then
        match source.style.bibliography.primary.repeated with
        | .print => creatorsOf? source resource
        | .replace => some source.style.bibliography.primary.repeatText
        | .omit => some []
      else (prepared source resource).item.stored.get? "creator1".toList := by
  rw [handed, get?_withLetter (by decide)]
  split
  · next hrepeats =>
    obtain ⟨text, htext, -⟩ := hrepeats
    rw [htext, Option.getD_some]
    refine (Dict.get?_insert _ _ _ _).trans ((if_pos rfl).trans ?_)
    cases h : source.style.bibliography.primary.repeated <;> simp only [repeatedText, h]
  · rfl

-- Whatever a session holds, and whatever stands between them without a template:
-- an entry is compared with the entry before it, in what it would print if it were
-- not compared itself. Repeated creators are printed again, replaced or left out, as
-- the style says.
theorem renderEntries_repeats (source : Source) (format : Format) (session : Session)
    (resources : List Resource) :
    let listed := resources.filter (isListed source)
    let entries := (renderEntries source format session resources).2
    let bundle := source.style.bibliography.primary
    entries.map (·.id) = listed.map (·.id) ∧
      entries = (renderEntries source format session listed).2 ∧
      (∀ earlier resource later, listed = earlier ++ resource :: later →
        ∃ template given,
          source.compiled.bibliographyTemplate? resource.type = some template ∧
          given = handed source session.disambiguation earlier.getLast? resource ∧
          given.item.stored.get? "creator1".toList =
            (if RepeatsCreators source earlier.getLast? resource then
              match bundle.repeated with
              | .print => creatorsOf? source resource
              | .replace => some bundle.repeatText
              | .omit => some []
            else (prepared source resource).item.stored.get? "creator1".toList) ∧
          entries[earlier.length]? =
            some ⟨resource.id, format.export (template.render given.item given.plurals)⟩) ∧
      ∀ (other : Session) (resource : Resource) (failure : NoTemplate),
        (renderEntry source format other resource).2 = .error failure →
        isListed source resource = false ∧ (renderEntry source format other resource).1 = other := by
  intro listed entries bundle
  have hentries : entries =
      entriesAfter source format session.disambiguation none resources :=
    renderEntries_snd session resources
  have hlisted : entries = entriesAfter source format session.disambiguation none listed :=
    hentries.trans (entriesAfter_filter none resources).symm
  refine ⟨?_, ?_, ?_, ?_⟩
  · rw [hentries, ids_entriesAfter]
  · rw [renderEntries_snd, hlisted]
  · intro earlier resource later hsplit
    have hall : ∀ other ∈ listed, isListed source other = true :=
      fun other hother => (List.mem_filter.1 hother).2
    rw [hsplit, List.forall_mem_append, List.forall_mem_cons] at hall
    obtain ⟨template, htemplate⟩ := Option.isSome_iff_exists.1 hall.2.1
    refine ⟨template, _, htemplate, rfl, creators_handed _ _, ?_⟩
    rw [hlisted, hsplit, getElem?_entriesAfter hall.1 htemplate, entryText]
  · intro other resource failure hfailure
    cases htemplate : source.compiled.bibliographyTemplate? resource.type with
    | none => simp [isListed, htemplate, renderEntry_of_none other htemplate]
    | some template => simp [renderEntry, draftEntry, htemplate, Except.map] at hfailure

def workBy (type id surname title : String) : Resource where
  id := id.toList
  type := type.toList
  values := .ofList [("title".toList, title.toList)]
  creatorLists := .ofList [("creator1".toList, [{ surname := surname.toList }])]

-- The film between two works of one author is passed over, and what the session
-- remembers of an earlier bibliography is forgotten.
theorem repeats_author_after_film :
    let primary : Bundle := { repeated := .replace, repeatText := ['-'] }
    let templates := Dict.ofList [("book".toList, "creator1|. title".toList)]
    let source := Source.make { bibliography := { primary := primary, templates := templates } }
      .empty
    let novel := workBy "book" "a" "Smith" "Novel"
    let letters := workBy "book" "b" "Smith" "Letters"
    let poems := workBy "book" "c" "Doe" "Poems"
    let resources := [novel, workBy "film" "f" "Doe" "Rain", letters, poems]
    let session : Session := { history := { lastCreators := some "Smith".toList } }
    let entries := (renderEntries source .plain session resources).2
    resources.filter (isListed source) = [novel] ++ letters :: [poems] ∧
      RepeatsCreators source (some novel) letters ∧
      (∃ (template : Template) (given : Prepared),
        source.compiled.bibliographyTemplate? letters.type = some template ∧
        given.item.stored.get? "creator1".toList = some ['-'] ∧
        entries[1]? =
          some ⟨['b'], Format.plain.export (template.render given.item given.plurals)⟩) ∧
      entries.map (·.text) = ["Smith. Novel", "-. Letters", "Doe. Poems"].map String.toList := by
  intro primary templates source novel letters poems resources session entries
  have hlisted : resources.filter (isListed source) = [novel] ++ letters :: [poems] := by
    decide +kernel
  have hrepeats : RepeatsCreators source (some novel) letters := by decide +kernel
  obtain ⟨-, -, hentry, -⟩ := renderEntries_repeats source .plain session resources
  obtain ⟨template, given, htemplate, -, hcreators, hget⟩ := hentry _ _ _ hlisted
  rw [List.getLast?_singleton, if_pos hrepeats] at hcreators
  exact ⟨hlisted, hrepeats, ⟨template, given, htemplate, hcreators, hget⟩, by decide +kernel⟩

end Referencing.Bibliography
