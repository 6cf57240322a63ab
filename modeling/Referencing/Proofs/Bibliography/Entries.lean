import Referencing.Bibliography

namespace Referencing.Bibliography

open Markup Value Citation

variable {source : Source} {format : Format} {resource : Resource}

-- A resource has an entry if there is a template for its type or one to fall back on.
def isListed (source : Source) (resource : Resource) : Bool :=
  (source.compiled.bibliographyTemplate? resource.type).isSome

def prepared (source : Source) (resource : Resource) : Prepared :=
  prepare source.style source.compiled .bibliography resource

-- The creators of a resource as they are printed unless they are repeated.
def creatorsOf? (source : Source) (resource : Resource) : Option Text :=
  (prepared source resource).item.get? "creator1".toList

-- There are creators, and they are those of the resource before.
def RepeatsCreators (source : Source) (previous : Option Resource) (resource : Resource) : Prop :=
  ∃ text, creatorsOf? source resource = some text ∧
    previous.bind (creatorsOf? source) = some text

theorem repeatsCreators_iff {previous : Option Resource} :
    RepeatsCreators source previous resource ↔
      (creatorsOf? source resource).isSome ∧
        previous.bind (creatorsOf? source) = creatorsOf? source resource := by
  rw [RepeatsCreators, Option.isSome_iff_exists]
  constructor
  · rintro ⟨text, htext, hprevious⟩
    exact ⟨⟨text, htext⟩, hprevious.trans htext.symm⟩
  · rintro ⟨⟨text, htext⟩, hprevious⟩
    exact ⟨text, htext, hprevious.trans htext⟩

instance (previous : Option Resource) :
    Decidable (RepeatsCreators source previous resource) :=
  decidable_of_iff _ repeatsCreators_iff.symm

-- What the template of an entry is given: the values of the resource, with its
-- letter, and in place of repeated creators what the style prints for them.
def handed (source : Source) (state : Disambiguation) (previous : Option Resource)
    (resource : Resource) : Prepared :=
  withLetter "year1" (state.letter? resource.id)
    (if RepeatsCreators source previous resource then
      (prepared source resource).put "creator1"
        (repeatedText source.style.bibliography.primary ((creatorsOf? source resource).getD []))
    else prepared source resource)

def entryText (source : Source) (format : Format) (state : Disambiguation)
    (previous : Option Resource) (resource : Resource) (template : Template) : Text :=
  let given := handed source state previous resource
  format.export (template.render given.item given.plurals)

-- A step of a bibliography compares the creators with those that are remembered,
-- and remembers them, or that there are none.
theorem suppressIn_eq (history : History) (previous : Option Resource) (resource : Resource)
    (h : history.lastCreators = previous.bind (creatorsOf? source)) :
    suppressIn source.style history (prepared source resource) =
      ({ history with lastCreators := creatorsOf? source resource },
        if RepeatsCreators source previous resource then
          (prepared source resource).put "creator1"
            (repeatedText source.style.bibliography.primary
              ((creatorsOf? source resource).getD []))
        else prepared source resource) := by
  cases hcreators : creatorsOf? source resource with
  | none =>
    have hnone : ¬RepeatsCreators source previous resource := by
      simp [repeatsCreators_iff, hcreators]
    rw [creatorsOf?] at hcreators
    simp only [suppressIn, hcreators, if_neg hnone, History.resetCreators]
  | some text =>
    have hrepeats : RepeatsCreators source previous resource ↔
        history.lastCreators = some text := by
      simp [repeatsCreators_iff, hcreators, h]
    rw [creatorsOf?] at hcreators
    have htext : text ≠ [] := Item.ne_nil_of_get? hcreators
    simp only [suppressIn, hcreators, suppressRepeat, Role.isBibliographic, htext, hrepeats,
      History.setLastCreators, Bool.not_true, decide_false, Bool.or_self, Bool.false_eq_true,
      if_false, Option.getD_some]
    split
    · rfl
    · simp only [Prepared.put, Item.insert_of_get? hcreators]

theorem renderEntry_of_none (session : Session)
    (h : source.compiled.bibliographyTemplate? resource.type = none) :
    renderEntry source format session resource = (session, .error ⟨resource.type⟩) := by
  simp only [renderEntry, draftEntry, h]
  rfl

theorem renderEntry_of_some {session : Session} {template : Template} {previous : Option Resource}
    (h : source.compiled.bibliographyTemplate? resource.type = some template)
    (hlast : session.history.lastCreators = previous.bind (creatorsOf? source)) :
    renderEntry source format session resource =
      ({ session with
          history := { session.history with lastCreators := creatorsOf? source resource } },
        .ok (entryText source format session.disambiguation previous resource template)) := by
  have hstep := suppressIn_eq session.history previous resource hlast
  rw [prepared] at hstep
  simp only [renderEntry, draftEntry, h, hstep]
  rfl

-- The entries of resources that come one after the other, the first of them after
-- `previous`. Those without a template are passed over.
def entriesAfter (source : Source) (format : Format) (state : Disambiguation) :
    Option Resource → List Resource → List Entry
  | _, [] => []
  | previous, resource :: rest =>
    match source.compiled.bibliographyTemplate? resource.type with
    | none => entriesAfter source format state previous rest
    | some template =>
      ⟨resource.id, entryText source format state previous resource template⟩ ::
        entriesAfter source format state (some resource) rest

theorem renderFrom_snd (session : Session) (previous : Option Resource)
    (resources : List Resource)
    (h : session.history.lastCreators = previous.bind (creatorsOf? source)) :
    (renderFrom source format session resources).2 =
      entriesAfter source format session.disambiguation previous resources := by
  induction resources generalizing session previous with
  | nil => rfl
  | cons resource rest ih =>
    cases htemplate : source.compiled.bibliographyTemplate? resource.type with
    | none =>
      simp only [renderFrom, entriesAfter, renderEntry_of_none session htemplate, htemplate]
      exact ih session previous h
    | some template =>
      simp only [renderFrom, entriesAfter, renderEntry_of_some htemplate h, htemplate]
      rw [ih _ (some resource) rfl]

-- The letters are all that entries take from a session.
theorem renderEntries_snd (session : Session) (resources : List Resource) :
    (renderEntries source format session resources).2 =
      entriesAfter source format session.disambiguation none resources :=
  renderFrom_snd _ none resources rfl

end Referencing.Bibliography
