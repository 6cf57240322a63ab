import Referencing.Proofs.Citation.Ambiguity
import Referencing.Proofs.Text.Trimmed

namespace Referencing.Disambiguation

open Text

-- What the works of one identity are meant to have in common. A title that does not count is none.
structure Signature where
  creators : List Text
  year : Text
  title : Option Text
  deriving DecidableEq

def signature (options : CitationOptions) (resource : Resource) : Signature where
  creators := (resource.primaryCreators?.getD []).map Creator.identity
  year := resource.year?.getD []
  title := if options.ambiguityIncludesTitle then some (lower (resource.title?.getD [])) else none

namespace Signature

-- All of it in one text, with commas and bars between the parts.
def text? (work : Signature) : Option Text :=
  if join [','] work.creators = [] then none
  else some (join [','] work.creators ++ '|' :: work.year ++ work.title.elim [] ('|' :: ·))

-- The commas and bars between the parts stand at the same places.
structure IsCutLike (work other : Signature) : Prop where
  creators : work.creators.map List.length = other.creators.map List.length
  year : work.year.length = other.year.length

-- No part has a comma or bar where one would end it.
structure IsPlain (work : Signature) : Prop where
  comma : ∀ creator ∈ work.creators, ',' ∉ creator
  bar : ∀ creator ∈ work.creators, '|' ∉ creator
  year : work.title.isSome → '|' ∉ work.year

instance (work : Signature) : Decidable work.IsPlain :=
  decidable_of_iff
    ((∀ creator ∈ work.creators, ',' ∉ creator) ∧ (∀ creator ∈ work.creators, '|' ∉ creator) ∧
      (work.title.isSome → '|' ∉ work.year))
    ⟨fun h => ⟨h.1, h.2.1, h.2.2⟩, fun h => ⟨h.comma, h.bar, h.year⟩⟩

-- Every comma and bar taken for the end of a part.
def read? (titled : Bool) (text : Text) : Option Signature :=
  (cut? '|' text).bind fun (creators, rest) =>
    if titled then
      (cut? '|' rest).map fun (year, title) => ⟨split ',' creators, year, some title⟩
    else some ⟨split ',' creators, rest, none⟩

theorem eq_of_text? {work : Signature} {text : Text} (h : work.text? = some text) :
    work.creators ≠ [] ∧
      text = join [','] work.creators ++ '|' :: (work.year ++ work.title.elim [] ('|' :: ·)) := by
  rw [text?] at h
  split at h
  · simp at h
  · next hne =>
    rw [Option.some.injEq] at h
    refine ⟨fun hnil => hne (by rw [hnil]; rfl), ?_⟩
    rw [← h, List.append_assoc, List.cons_append]

-- Two joined lists with pieces of the same lengths can be taken apart.
theorem eq_of_join_append {pieces others : List Text}
    (h : pieces.map List.length = others.map List.length) {rest rest' : Text}
    (htext : join [','] pieces ++ rest = join [','] others ++ rest') :
    pieces = others ∧ rest = rest' := by
  induction pieces generalizing others with
  | nil =>
    have hnil : others = [] := by simpa using h.symm
    subst hnil
    exact ⟨rfl, htext⟩
  | cons piece pieces ih =>
    cases others with
    | nil => simp at h
    | cons other others =>
      rw [List.map_cons, List.map_cons, List.cons.injEq] at h
      cases pieces with
      | nil =>
        have hnil : others = [] := by simpa using h.2.symm
        subst hnil
        simp only [join] at htext
        obtain ⟨hpiece, hrest⟩ := List.append_inj htext h.1
        exact ⟨by rw [hpiece], hrest⟩
      | cons next pieces =>
        cases others with
        | nil => simp at h
        | cons next' others =>
          simp only [join, List.append_assoc] at htext
          obtain ⟨hpiece, hjoined⟩ := List.append_inj htext h.1
          obtain ⟨hpieces, hrest⟩ := ih h.2 (List.append_cancel_left hjoined)
          exact ⟨by rw [hpiece, hpieces], hrest⟩

variable {work other : Signature} {text : Text}

theorem eq_iff_isCutLike (htitle : work.title.isSome = other.title.isSome)
    (hwork : work.text? = some text) (hother : other.text? = some text) :
    work = other ↔ work.IsCutLike other := by
  constructor
  · rintro rfl
    exact ⟨rfl, rfl⟩
  · intro hcut
    have htext := (eq_of_text? hwork).2.symm.trans (eq_of_text? hother).2
    obtain ⟨hcreators, hrest⟩ := eq_of_join_append hcut.creators htext
    obtain ⟨hyear, htitles⟩ := List.append_inj (List.cons.inj hrest).2 hcut.year
    obtain ⟨creators, year, title⟩ := work
    obtain ⟨creators', year', title'⟩ := other
    cases title <;> cases title' <;> simp_all

-- What is plain is read back as it was, and nothing else is.
theorem read?_eq_iff (h : work.text? = some text) :
    read? work.title.isSome text = some work ↔ work.IsPlain := by
  obtain ⟨hne, htext⟩ := eq_of_text? h
  obtain ⟨creators, year, title⟩ := work
  constructor
  · intro hread
    rw [read?, Option.bind_eq_some_iff] at hread
    obtain ⟨⟨before, rest⟩, hcut, hread⟩ := hread
    have hparts : split ',' before = creators ∧ (title.isSome → '|' ∉ year) := by
      cases title with
      | none => simp_all
      | some title =>
        simp only [Option.isSome_some, if_true, Option.map_eq_some_iff] at hread
        obtain ⟨⟨year', title'⟩, hcut', hread⟩ := hread
        rw [mk.injEq] at hread
        exact ⟨hread.1, fun _ => hread.2.1 ▸ (eq_of_cut? hcut').2⟩
    refine ⟨fun creator hmem hcomma => ?_, fun creator hmem hbar => ?_, hparts.2⟩
    · rw [← hparts.1] at hmem
      exact absurd (not_mark_of_mem_splitWhere hmem ',' hcomma) (by decide)
    · rw [← hparts.1] at hmem
      exact (eq_of_cut? hcut).2 (mem_of_mem_splitWhere hmem hbar)
  · intro hplain
    have hbar : '|' ∉ join [','] creators := not_mem_join (by decide) hplain.bar
    have hsplit : split ',' (join [','] creators) = creators := split_join hne hplain.comma
    rw [read?, htext, cut?_append _ hbar]
    cases title with
    | none => simp [hsplit]
    | some title =>
      have hyear := cut?_append title (hplain.year rfl)
      simp [hsplit, hyear]

theorem eq_iff_isPlain (htitle : work.title.isSome = other.title.isSome)
    (hwork : work.text? = some text) (hother : other.text? = some text) (hplain : work.IsPlain) :
    work = other ↔ other.IsPlain := by
  rw [← read?_eq_iff hother, ← htitle, (read?_eq_iff hwork).2 hplain, Option.some.injEq]

end Signature

section Groups

variable {library : Library} {options : CitationOptions} {left right resource : Resource}

-- Two resources are in one group.
def Together (groups : Groups) (left right : Resource) : Prop :=
  ∃ entry ∈ groups.entries, left.id ∈ entry.2 ∧ right.id ∈ entry.2

instance (groups : Groups) (left right : Resource) : Decidable (Together groups left right) :=
  inferInstanceAs (Decidable (∃ _ ∈ _, _))

theorem identity?_eq_text? (options : CitationOptions) (resource : Resource) :
    identity? options [] resource = (signature options resource).text? := by
  cases hcreators : resource.primaryCreators? <;>
    cases htitle : options.ambiguityIncludesTitle <;>
      simp [identity?, signature, Signature.text?, CreatorList.key, hcreators, htitle, join]

theorem together_iff {groups : Groups} :
    Together groups left right ↔
      ∃ identity, left.id ∈ members groups identity ∧ right.id ∈ members groups identity := by
  constructor
  · rintro ⟨entry, hentry, hleft, hright⟩
    rw [← members_of_mem_entries hentry] at hleft hright
    exact ⟨entry.1, hleft, hright⟩
  · rintro ⟨identity, hleft, hright⟩
    exact ⟨_, mem_entries_of_mem_members hleft, hleft, hright⟩

-- Occurrences that name no creators put a resource into the group of its own creators.
theorem mem_members_of_bare {occurrences : List Occurrence}
    (hbare : ∀ occurrence ∈ occurrences, occurrence.creatorIds = [])
    (hresource : resource ∈ library.resources) (identity : Text) :
    resource.id ∈ members (groupsOf library options occurrences) identity ↔
      resource.id ∈ occurrences.map (·.id) ∧
        (signature options resource).text? = some identity := by
  have hidentity : ∀ occurrence ∈ occurrences, occurrence.id = resource.id →
      identityOf? library options occurrence = (signature options resource).text? := by
    intro occurrence hmem hid
    rw [identityOf?, hid, Library.get?_of_mem hresource, hbare occurrence hmem,
      Option.bind_some, identity?_eq_text?]
  rw [mem_members_groupsOf, List.mem_map]
  constructor
  · rintro ⟨occurrence, hmem, hid, hsome⟩
    exact ⟨⟨occurrence, hmem, hid⟩, (hidentity occurrence hmem hid).symm.trans hsome⟩
  · rintro ⟨⟨occurrence, hmem, hid⟩, hsome⟩
    exact ⟨occurrence, hmem, hid, (hidentity occurrence hmem hid).trans hsome⟩

theorem together_groupsOf_iff {occurrences : List Occurrence}
    (hbare : ∀ occurrence ∈ occurrences, occurrence.creatorIds = [])
    (hleft : left ∈ library.resources) (hright : right ∈ library.resources) :
    Together (groupsOf library options occurrences) left right ↔
      left.id ∈ occurrences.map (·.id) ∧ right.id ∈ occurrences.map (·.id) ∧
        ∃ identity, (signature options left).text? = some identity ∧
          (signature options right).text? = some identity := by
  simp only [together_iff, mem_members_of_bare hbare hleft, mem_members_of_bare hbare hright]
  constructor
  · rintro ⟨identity, ⟨hcited, hidentity⟩, hcited', hidentity'⟩
    exact ⟨hcited, hcited', identity, hidentity, hidentity'⟩
  · rintro ⟨hcited, hcited', identity, hidentity, hidentity'⟩
    exact ⟨identity, ⟨hcited, hidentity⟩, hcited', hidentity'⟩

theorem together_libraryGroups_iff (hleft : left ∈ library.resources)
    (hright : right ∈ library.resources) :
    Together (libraryGroups library options) left right ↔
      ∃ identity, (signature options left).text? = some identity ∧
        (signature options right).text? = some identity := by
  have hbare : ∀ occurrence ∈ library.resources.map fun resource =>
      ({ id := resource.id } : Occurrence), occurrence.creatorIds = [] := by simp
  have hcited : ∀ resource ∈ library.resources, resource.id ∈
      (library.resources.map fun resource => ({ id := resource.id } : Occurrence)).map (·.id) :=
    fun resource hmem => List.mem_map_of_mem (List.mem_map_of_mem hmem)
  rw [← groupsOf_bare, together_groupsOf_iff hbare hleft hright]
  exact ⟨fun h => h.2.2, fun h => ⟨hcited left hleft, hcited right hright, h⟩⟩

end Groups

-- Works in one group have the same identity, but not always the same creators, year and title:
-- the commas and bars of the identity may belong to these. If those of one work have none of them,
-- the works are the same in all this exactly if those of the other have none either.
theorem signature_eq_iff_of_together (library : Library) (options : CitationOptions)
    (groups : Groups) (left right : Resource) (hleft : left ∈ library.resources)
    (hright : right ∈ library.resources)
    (hgroups : groups = libraryGroups library options ∨
      ∃ occurrences, (∀ occurrence ∈ occurrences, occurrence.creatorIds = []) ∧
        groups = groupsOf library options occurrences)
    (htogether : Together groups left right) :
    (signature options left = signature options right ↔
      (signature options left).IsCutLike (signature options right)) ∧
    ((signature options left).IsPlain →
      (signature options left = signature options right ↔
        (signature options right).IsPlain)) := by
  have hidentity : ∃ identity, (signature options left).text? = some identity ∧
      (signature options right).text? = some identity := by
    rcases hgroups with rfl | ⟨occurrences, hbare, rfl⟩
    · exact (together_libraryGroups_iff hleft hright).1 htogether
    · exact ((together_groupsOf_iff hbare hleft hright).1 htogether).2.2
  obtain ⟨identity, hleftText, hrightText⟩ := hidentity
  have htitle : (signature options left).title.isSome = (signature options right).title.isSome := by
    cases htitled : options.ambiguityIncludesTitle <;> simp [signature, htitled]
  exact ⟨Signature.eq_iff_isCutLike htitle hleftText hrightText,
    Signature.eq_iff_isPlain htitle hleftText hrightText⟩

-- A work of 2004 by creators of these surnames.
def workBy (id : String) (surnames : List String) : Resource where
  id := id.toList
  values := .ofList [("year1".toList, "2004".toList)]
  creatorLists := .ofList
    [("creator1".toList, surnames.map fun surname => { surname := surname.toList })]

-- Two works of the same two creators that are told apart by their titles too, if these differ.
theorem signature_eq_of_two_creators :
    let options : CitationOptions := { ambiguityIncludesTitle := true }
    let left := workBy "a" ["Black", "Decker"]
    let right := workBy "b" ["black", "DECKER"]
    let library := Library.ofList [left, right]
    left ∈ library.resources ∧ right ∈ library.resources ∧
      Together (libraryGroups library options) left right ∧
      (signature options left).IsPlain ∧ (signature options right).IsPlain ∧
      signature options left = signature options right := by
  intro options left right library
  have hleft : left ∈ library.resources := by decide
  have hright : right ∈ library.resources := by decide
  have htogether : Together (libraryGroups library options) left right := by decide +kernel
  have hplain : (signature options left).IsPlain ∧ (signature options right).IsPlain := by
    decide +kernel
  have hiff := signature_eq_iff_of_together library options _ left right hleft hright (.inl rfl)
    htogether
  exact ⟨hleft, hright, htogether, hplain.1, hplain.2, (hiff.2 hplain.1).2 hplain.2⟩

-- A firm with a comma in its name is taken for two creators.
theorem together_of_comma_in_name :
    let left := workBy "a" ["Black", "Decker"]
    let right := workBy "b" ["Black,Decker"]
    let library := Library.ofList [left, right]
    Together (libraryGroups library {}) left right ∧
      (signature {} left).creators = ["black".toList, "decker".toList] ∧
      (signature {} right).creators = ["black,decker".toList] ∧
      (ofLibrary library {}).ambiguous = ["a".toList, "b".toList] := by
  decide +kernel

end Referencing.Disambiguation
