import Referencing.Proofs.Value.CreatorLists
import Referencing.Proofs.Value.Names

namespace Referencing

def Truncation.abbreviating (options : Truncation) (abbreviation : Text) : Truncation :=
  { options with abbreviation }

def Bundle.truncating (bundle : Bundle) (options : Truncation) : Bundle :=
  { bundle with truncation := some options }

namespace Value

open Text

-- Whatever the abbreviation is, the text ends in it.
def AppendsAbbreviation (bundle : Bundle) (options : Truncation) (rewrite : Option Rewrite)
    (creators : CreatorList) : Prop :=
  ∃ names, ∀ abbreviation,
    (layoutCreators (bundle.truncating (options.abbreviating abbreviation)) rewrite
      creators).text = names ++ abbreviationOf (options.abbreviating abbreviation)

-- Whoever the creator at an index is, the text is the same.
def LeavesOut (bundle : Bundle) (rewrite : Option Rewrite) (creators : CreatorList)
    (index : Nat) : Prop :=
  ∀ other, (layoutCreators bundle rewrite (creators.set index other)).text =
    (layoutCreators bundle rewrite creators).text

-- How many names of so many are printed.
def printedCount (options : Truncation) (count : Nat) : Nat :=
  if options.moreThan < count then min (max options.limit 1) count else count

section Length

-- There is no longest name.
theorem exists_lt_length_layoutName (bundle : Bundle) (order : NameOrder) (n : Nat) :
    ∃ creator, n < (layoutName bundle order creator).length := by
  let particle := List.replicate (n + 1) 'A'
  have hletter : isBlank 'A' = false := by decide
  have hletters : ∀ c ∈ particle, isBlank c = false := by
    intro c hc
    rwa [List.eq_of_mem_replicate hc]
  have hparticle : ¬isBlankText particle = true := by simp [isBlankText, particle, hletter]
  have hgiven : givenNames bundle { particle } = [] := by
    cases hform : bundle.given <;> simp only [givenNames, hform] <;> rfl
  refine ⟨{ particle }, ?_⟩
  rw [layoutName_of_no_given order hgiven, familyName_of_blank _ _ rfl, if_neg hparticle,
    (isTrimmed_of_not_blank hletters).trim_eq, List.length_append, List.length_replicate]
  omega

theorem length_le_separated (separator : Nat → Text) {names : List Text} {name : Text}
    (h : name ∈ names) : name.length ≤ (separated separator names).length := by
  cases names with
  | nil => cases h
  | cons first rest =>
    rw [separated, List.length_append]
    rcases List.mem_cons.1 h with rfl | h
    · exact Nat.le_add_right _ _
    · obtain ⟨index, hindex, rfl⟩ := List.getElem_of_mem h
      have hmem : separator index ++ rest[index] ∈
          rest.mapIdx fun index text => separator index ++ text :=
        List.mem_mapIdx.2 ⟨index, hindex, rfl⟩
      have hlength := (List.sublist_flatten_of_mem hmem).length_le
      rw [List.length_append] at hlength
      omega

theorem length_layoutName_le (separator : Nat → Text) (bundle : Bundle) (rule : Rewrite)
    {creators : CreatorList} {index : Nat} {creator : Creator}
    (h : creators[index]? = some creator) :
    (layoutName bundle (orderAt bundle index) creator).length ≤
      (separated separator (printedNames bundle rule creators)).length := by
  obtain ⟨hindex, rfl⟩ := List.getElem?_eq_some_iff.1 h
  have hmem : rule.before index ++ layoutName bundle (orderAt bundle index) creators[index] ++
      rule.behind creators.length index ∈ printedNames bundle rule creators :=
    List.mem_mapIdx.2 ⟨index, hindex, rfl⟩
  have hlength := length_le_separated separator hmem
  rw [List.length_append, List.length_append] at hlength
  omega

theorem length_le_abbreviationOf (options : Truncation) :
    options.abbreviation.length ≤ (abbreviationOf options).length := by
  unfold abbreviationOf
  split
  · have hlength := congrArg List.length (leadingBlank_append_trimStart options.abbreviation)
    rw [List.length_append] at hlength
    simp only [List.length_append]
    omega
  · exact Nat.le_refl _

end Length

section Printing

variable {bundle : Bundle} {options : Truncation} (rewrite : Option Rewrite)

-- What is printed beside the names depends on nothing but how many creators there are.
theorem exists_text_eq (h : bundle.truncation = some options) (count : Nat) :
    ∃ separator abbreviation, ∀ creators : CreatorList, creators.length = count →
      (layoutCreators bundle rewrite creators).text =
        separated separator (printedNames bundle (rewrite.getD {})
          (creators.take (printedCount options count))) ++ abbreviation := by
  by_cases hlt : options.moreThan < count
  · refine ⟨truncatedSeparator bundle, abbreviationOf options, fun creators hlength => ?_⟩
    subst hlength
    rw [layoutCreators_truncated bundle rewrite creators h hlt, printedCount, if_pos hlt]
  · refine ⟨wholeSeparator bundle count, [], fun creators hlength => ?_⟩
    subst hlength
    have hle : ∀ other, bundle.truncation = some other → creators.length ≤ other.moreThan := by
      intro other hother
      obtain rfl := Option.some.inj (h.symm.trans hother)
      omega
    rw [layoutCreators_whole bundle rewrite creators hle, printedCount, if_neg hlt,
      List.take_length, List.append_nil]

theorem leavesOut_iff (h : bundle.truncation = some options) {creators : CreatorList}
    {index : Nat} (hindex : index < creators.length) :
    LeavesOut bundle rewrite creators index ↔ printedCount options creators.length ≤ index := by
  obtain ⟨separator, abbreviation, htext⟩ := exists_text_eq rewrite h creators.length
  have hset := fun other => htext (creators.set index other) List.length_set
  constructor
  · intro hleft
    by_contra hprinted
    -- A name that is longer than the whole text cannot stand in it.
    obtain ⟨other, hother⟩ := exists_lt_length_layoutName bundle (orderAt bundle index)
      (layoutCreators bundle rewrite creators).text.length
    have hthere : ((creators.set index other).take (printedCount options creators.length))[index]? =
        some other := by
      rw [List.getElem?_take, if_pos (Nat.lt_of_not_le hprinted), List.getElem?_set_self hindex]
    have hname := length_layoutName_le separator bundle (rewrite.getD {}) hthere
    have hlength := congrArg List.length ((hset other).symm.trans (hleft other))
    rw [List.length_append] at hlength
    omega
  · intro hkept other
    rw [hset, htext creators rfl, List.take_set_of_le hkept]

theorem exists_leavesOut_iff (h : bundle.truncation = some options) (creators : CreatorList) :
    (∃ index < creators.length, LeavesOut bundle rewrite creators index) ↔
      options.moreThan < creators.length ∧ max options.limit 1 < creators.length := by
  have hcount : printedCount options creators.length < creators.length ↔
      options.moreThan < creators.length ∧ max options.limit 1 < creators.length := by
    unfold printedCount
    split <;> omega
  rw [← hcount]
  constructor
  · rintro ⟨index, hindex, hleft⟩
    exact Nat.lt_of_le_of_lt ((leavesOut_iff rewrite h hindex).1 hleft) hindex
  · intro hlt
    exact ⟨_, hlt, (leavesOut_iff rewrite h hlt).2 (Nat.le_refl _)⟩

theorem appendsAbbreviation_iff (bundle : Bundle) (options : Truncation) (creators : CreatorList) :
    AppendsAbbreviation bundle options rewrite creators ↔ options.moreThan < creators.length := by
  constructor
  · rintro ⟨names, hnames⟩
    by_contra hle
    let whole := separated (wholeSeparator bundle creators.length)
      (printedNames bundle (rewrite.getD {}) creators)
    let long := options.abbreviating (.replicate (whole.length + 1) ' ')
    have htext : (layoutCreators (bundle.truncating long) rewrite creators).text = whole := by
      rw [layoutCreators_whole]
      · rfl
      · rintro other hother
        obtain rfl := Option.some.inj hother
        exact Nat.le_of_not_lt hle
    have hwhole : whole = names ++ abbreviationOf long := htext.symm.trans (hnames _)
    have hlength := congrArg List.length hwhole
    have hlong := length_le_abbreviationOf long
    have hreplicate : long.abbreviation.length = whole.length + 1 := List.length_replicate
    rw [List.length_append] at hlength
    omega
  · intro hlt
    refine ⟨separated (truncatedSeparator bundle) (printedNames bundle (rewrite.getD {})
      (creators.take (min (max options.limit 1) creators.length))), fun abbreviation => ?_⟩
    have htruncation : (bundle.truncating (options.abbreviating abbreviation)).truncation =
        some (options.abbreviating abbreviation) := rfl
    rw [layoutCreators_truncated _ rewrite creators htruncation hlt]
    rfl

-- An abbreviation is printed for every list with more creators than the bundle allows, so
-- that no creator is left out without one. It stands for somebody exactly if the names that
-- are kept are fewer than the list has.
theorem appendsAbbreviation_iff_leavesOut (h : bundle.truncation = some options)
    (creators : CreatorList) :
    (AppendsAbbreviation bundle options rewrite creators ↔ options.moreThan < creators.length) ∧
      ((∃ index < creators.length, LeavesOut bundle rewrite creators index) →
        AppendsAbbreviation bundle options rewrite creators) ∧
      ((AppendsAbbreviation bundle options rewrite creators ↔
          ∃ index < creators.length, LeavesOut bundle rewrite creators index) ↔
        (options.moreThan < creators.length → max options.limit 1 < creators.length)) := by
  rw [exists_leavesOut_iff rewrite h, appendsAbbreviation_iff]
  refine ⟨Iff.rfl, And.left, ?_⟩
  rw [iff_self_and]

-- Two names and an abbreviation for the other two.
theorem leavesOut_of_four :
    let options : Truncation := { limit := 2, abbreviationItalic := true }
    let bundle : Bundle := { truncation := some options }
    let creators : CreatorList := [
      { surname := "Smith".toList, given := "Jane".toList },
      { surname := "Doe".toList, given := "John".toList },
      { surname := "Lee".toList, given := "Ann".toList },
      { surname := "Park".toList, given := "Min".toList }]
    (layoutCreators bundle none creators).text =
        "Smith, Jane, John Doe [i]et al.[/i]".toList ∧
      (AppendsAbbreviation bundle options none creators ↔
        ∃ index < creators.length, LeavesOut bundle none creators index) := by
  intro options bundle creators
  refine ⟨by decide, ?_⟩
  exact (appendsAbbreviation_iff_leavesOut none rfl creators).2.2.2 (by decide)

-- More names are kept than a list needs to be cut short: all of them are printed, and the
-- abbreviation as well.
theorem abbreviation_of_two_for_nobody :
    let options : Truncation := { moreThan := 1, limit := 2 }
    let bundle : Bundle := { twoCreatorsSeparator := ", ".toList, truncation := some options }
    let creators : CreatorList := [
      { surname := "Smith".toList, given := "Jane".toList },
      { surname := "Doe".toList, given := "John".toList }]
    (layoutCreators bundle none creators).text = "Smith, Jane, John Doe et al.".toList ∧
      ¬(AppendsAbbreviation bundle options none creators ↔
        ∃ index < creators.length, LeavesOut bundle none creators index) := by
  intro options bundle creators
  refine ⟨by decide, ?_⟩
  rw [exists_leavesOut_iff none rfl, appendsAbbreviation_iff]
  decide

end Printing

end Value

end Referencing
