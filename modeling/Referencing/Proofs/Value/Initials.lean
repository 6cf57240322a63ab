import Referencing.Proofs.Text.Joined
import Referencing.Proofs.Value.Names

namespace Referencing.Value

open Text

-- The first letters of the hyphened parts of a word.
def firstLetters (word : Text) : Text :=
  (split '-' word).filterMap (·.find? isAlphabetic)

-- What given names are reduced to: a group for each word with a letter, and then one for
-- each letter of the typed initials.
def letterGroups (creator : Creator) : List Text :=
  ((words creator.given).filter (·.any isAlphabetic)).map firstLetters ++
    (creator.initials.filter isAlphabetic).map ([·])

-- One initial for each letter, of however many characters its upper case is. Hyphens stand
-- between the initials of one group.
def printInitials (form : InitialsForm) (groups : List Text) : Text :=
  let (after, between) := initialMarks form
  join between (groups.map fun group => join ['-'] (group.map fun c => upperOf c ++ after))

-- The text without what the forms of initials differ in.
def withoutMarks (text : Text) : Text :=
  without ' ' (without '.' text)

section Letters

variable {word : Text}

theorem firstLetters_eq_nil_iff : firstLetters word = [] ↔ word.any isAlphabetic = false := by
  constructor
  · intro h
    rw [List.any_eq_false]
    intro c hc halpha
    have hmark : c ≠ '-' := by
      rintro rfl
      exact absurd halpha (by decide +kernel)
    have hsplit : ∃ part ∈ split '-' word, c ∈ part :=
      exists_mem_splitWhere hc (beq_false_of_ne hmark)
    obtain ⟨part, hpart, hmem⟩ := hsplit
    have hnone := List.filterMap_eq_nil_iff.1 h part hpart
    exact List.find?_eq_none.1 hnone c hmem halpha
  · intro h
    rw [List.any_eq_false] at h
    refine List.filterMap_eq_nil_iff.2 fun part hpart => List.find?_eq_none.2 fun c hc => ?_
    exact h c (mem_of_mem_splitWhere hpart hc)

theorem isAlphabetic_of_mem_firstLetters {c : Char} (h : c ∈ firstLetters word) :
    isAlphabetic c := by
  obtain ⟨part, -, hfind⟩ := List.mem_filterMap.1 h
  exact List.find?_some hfind

-- An upper case is never empty, so a word has initials if it has letters.
theorem groupsOfGiven_eq (given : Text) :
    groupsOfGiven given =
      (((words given).filter (·.any isAlphabetic)).map firstLetters).map upper := by
  have hgroup : ∀ word, decide (groupOfWord word ≠ []) = word.any isAlphabetic := by
    intro word
    have hnil : groupOfWord word = [] ↔ word.any isAlphabetic = false := by
      rw [← firstLetters_eq_nil_iff]
      exact upper_eq_nil_iff
    cases hany : word.any isAlphabetic <;> simp [hnil, hany]
  rw [groupsOfGiven, List.filter_map, List.map_map]
  have hfilter : ((fun group => decide (group ≠ [])) ∘ groupOfWord) = (·.any isAlphabetic) :=
    funext hgroup
  rw [hfilter]
  rfl

theorem groupsOfInitials_eq (initials : Text) :
    groupsOfInitials initials = ((initials.filter isAlphabetic).map ([·])).map upper := by
  rw [groupsOfInitials, List.map_map]
  refine List.map_congr_left fun c _ => ?_
  simp [upper]

theorem hyphen_not_mem_upperOf {c : Char} (h : isAlphabetic c) : '-' ∉ upperOf c := by
  intro hmem
  rw [eq_of_mark_mem_upperOf (by simp) hmem] at h
  exact absurd h (by decide +kernel)

theorem lettered_of_mem_letterGroups {creator : Creator} {group : Text}
    (h : group ∈ letterGroups creator) : group ≠ [] ∧ ∀ c ∈ group, isAlphabetic c := by
  rcases List.mem_append.1 h with hgiven | htyped
  · obtain ⟨word, hword, rfl⟩ := List.mem_map.1 hgiven
    have hany := (List.mem_filter.1 hword).2
    refine ⟨fun hnil => ?_, fun c => isAlphabetic_of_mem_firstLetters⟩
    rw [firstLetters_eq_nil_iff.1 hnil] at hany
    contradiction
  · obtain ⟨c, hc, rfl⟩ := List.mem_map.1 htyped
    exact ⟨List.cons_ne_nil c [], by simpa using (List.mem_filter.1 hc).2⟩

end Letters

section Layout

variable (form : InitialsForm)

-- An upper case of several characters is laid out as that many initials.
theorem layoutInitials_map_upper (groups : List Text) :
    layoutInitials form (groups.map upper) =
      join (initialMarks form).2 (groups.map fun group =>
        join ['-'] (group.map fun c =>
          join ['-'] ((upperOf c).map fun letter => letter :: (initialMarks form).1))) := by
  have hgroup : ∀ group : Text, join ['-'] ((upper group).map fun letter =>
      letter :: (initialMarks form).1) = join ['-'] (group.map fun c =>
        join ['-'] ((upperOf c).map fun letter => letter :: (initialMarks form).1)) := by
    intro group
    rw [upper, List.map_flatMap, join_flatMap]
    intro c _
    simpa using upperOf_ne_nil c
  rw [layoutInitials_eq, List.map_map]
  exact congrArg _ (List.map_congr_left fun group _ => hgroup group)

theorem length_append_le_join (after : Text) {letters : Text} (h : letters ≠ []) :
    (letters ++ after).length + (letters.length - 1) ≤
      (join ['-'] (letters.map fun letter => letter :: after)).length := by
  induction letters with
  | nil => exact absurd rfl h
  | cons letter letters ih =>
    rw [join_map_cons]
    by_cases hnil : letters = []
    · simp [hnil]
    · have hrest := ih hnil
      rw [if_neg hnil]
      simp only [List.length_append, List.length_cons, List.length_nil] at hrest ⊢
      omega

theorem append_eq_join_iff (after : Text) {letters : Text} (h : letters ≠ []) :
    letters ++ after = join ['-'] (letters.map fun letter => letter :: after) ↔
      letters.length = 1 := by
  constructor
  · intro hsame
    have hlength := length_append_le_join after h
    have hpos := List.length_pos_iff.2 h
    rw [← hsame] at hlength
    omega
  · intro hone
    obtain ⟨letter, rfl⟩ := List.length_eq_one_iff.1 hone
    rfl

theorem printInitials_eq_layoutInitials_iff (groups : List Text) :
    printInitials form groups = layoutInitials form (groups.map upper) ↔
      ∀ group ∈ groups, ∀ c ∈ group, (upperOf c).length = 1 := by
  have hinitial : ∀ c : Char, (upperOf c ++ (initialMarks form).1).length ≤
      (join ['-'] ((upperOf c).map fun letter => letter :: (initialMarks form).1)).length :=
    fun c => (Nat.le_add_right _ _).trans (length_append_le_join _ (upperOf_ne_nil c))
  have hprint : printInitials form groups = join (initialMarks form).2 (groups.map fun group =>
      join ['-'] (group.map fun c => upperOf c ++ (initialMarks form).1)) := rfl
  rw [hprint, layoutInitials_map_upper,
    join_map_eq_iff _ fun group _ => length_join_map_le _ fun c _ => hinitial c]
  refine forall₂_congr fun group _ => ?_
  rw [join_map_eq_iff _ fun c _ => hinitial c]
  exact forall₂_congr fun c _ => append_eq_join_iff _ (upperOf_ne_nil c)

theorem withoutMarks_join (separator : Text) (pieces : List Text) :
    withoutMarks (join separator pieces) =
      join (withoutMarks separator) (pieces.map withoutMarks) := by
  rw [withoutMarks, without_join, without_join, List.map_map]
  rfl

theorem withoutMarks_append (left right : Text) :
    withoutMarks (left ++ right) = withoutMarks left ++ withoutMarks right := by
  rw [withoutMarks, without_append, without_append, withoutMarks, withoutMarks]

-- What is left of initials does not depend on their form.
theorem withoutMarks_layoutInitials (groups : List InitialGroup) :
    withoutMarks (layoutInitials form groups) = join [] (groups.map fun group =>
      join (withoutMarks ['-']) (group.map fun letter => withoutMarks [letter])) := by
  obtain ⟨hafter, hbetween⟩ :
      withoutMarks (initialMarks form).1 = [] ∧ withoutMarks (initialMarks form).2 = [] := by
    cases form <;> decide
  have hinitial : ∀ letter, withoutMarks (letter :: (initialMarks form).1) =
      withoutMarks [letter] := by
    intro letter
    have happend := withoutMarks_append [letter] (initialMarks form).1
    rwa [hafter, List.append_nil] at happend
  have hgroup : ∀ group : InitialGroup,
      withoutMarks (join ['-'] (group.map fun letter => letter :: (initialMarks form).1)) =
        join (withoutMarks ['-']) (group.map fun letter => withoutMarks [letter]) := by
    intro group
    rw [withoutMarks_join, List.map_map]
    exact congrArg _ (List.map_congr_left fun letter _ => hinitial letter)
  rw [layoutInitials_eq, withoutMarks_join, hbetween, List.map_map]
  exact congrArg _ (List.map_congr_left fun group _ => hgroup group)

end Layout

section Given

variable (bundle : Bundle) (creator : Creator)

theorem givenNames_of_initial (h : bundle.given = .initial) :
    givenNames bundle creator =
      layoutInitials bundle.initials ((letterGroups creator).map upper) := by
  have hgroups : groupsOfGiven (trim creator.given) ++ groupsOfInitials creator.initials =
      (letterGroups creator).map upper := by
    rw [groupsOfGiven_eq, groupsOfInitials_eq, words_trim, letterGroups, List.map_append]
  rw [givenNames, h, hgroups]

-- Each word with a letter and each typed letter gives one group, which has an initial for
-- each hyphened part with a letter. They are printed so, with hyphens between the initials of a
-- group only, exactly if every letter has one character for its upper case: each character
-- of an upper case is laid out as an initial of its own. The forms differ in their marks only.
theorem givenNames_eq_printInitials_iff (h : bundle.given = .initial) :
    givenNames bundle creator =
        layoutInitials bundle.initials ((letterGroups creator).map upper) ∧
      (givenNames bundle creator = printInitials bundle.initials (letterGroups creator) ↔
        ∀ group ∈ letterGroups creator, ∀ c ∈ group, (upperOf c).length = 1) ∧
      (∀ group ∈ letterGroups creator,
        group ≠ [] ∧ ∀ c ∈ group, isAlphabetic c ∧ '-' ∉ upperOf c) ∧
      ∀ form, withoutMarks (givenNames { bundle with initials := form } creator) =
        withoutMarks (givenNames bundle creator) := by
  have hgiven := givenNames_of_initial bundle creator h
  refine ⟨hgiven, ?_, fun group hgroup => ?_, fun form => ?_⟩
  · rw [hgiven, eq_comm, printInitials_eq_layoutInitials_iff]
  · obtain ⟨hne, hletters⟩ := lettered_of_mem_letterGroups hgroup
    exact ⟨hne, fun c hc => ⟨hletters c hc, hyphen_not_mem_upperOf (hletters c hc)⟩⟩
  · have hform : givenNames { bundle with initials := form } creator =
        layoutInitials form ((letterGroups creator).map upper) :=
      givenNames_of_initial _ creator h
    rw [hform, hgiven, withoutMarks_layoutInitials, withoutMarks_layoutInitials]

theorem givenNames_of_hyphened :
    let bundle : Bundle := { given := .initial }
    let creator : Creator := { given := "Jean-Paul Charles".toList, initials := "a".toList }
    givenNames bundle creator = "J.-P. C. A.".toList ∧
      givenNames bundle creator = printInitials bundle.initials (letterGroups creator) := by
  intro bundle creator
  have hgroups : letterGroups creator = ["JP".toList, "C".toList, "a".toList] := by decide +kernel
  have hupper : upperOf 'J' = ['J'] ∧ upperOf 'P' = ['P'] ∧ upperOf 'C' = ['C'] ∧
      upperOf 'a' = ['A'] := by decide +kernel
  have hsingle : ∀ group ∈ letterGroups creator, ∀ c ∈ group, (upperOf c).length = 1 := by
    simp [hgroups, hupper]
  refine ⟨by decide +kernel, ?_⟩
  exact (givenNames_eq_printInitials_iff bundle creator rfl).2.1.2 hsingle

-- The upper case of a sharp s has two characters, and a hyphen is printed between them.
theorem givenNames_ne_printInitials_of_sharp_s :
    let bundle : Bundle := { given := .initial }
    let creator : Creator := { given := "ßena".toList }
    letterGroups creator = ["ß".toList] ∧ '-' ∉ creator.given ∧
      givenNames bundle creator = "S.-S.".toList ∧
      printInitials bundle.initials (letterGroups creator) = "SS.".toList ∧
      givenNames bundle creator ≠ printInitials bundle.initials (letterGroups creator) := by
  decide +kernel

end Given

end Referencing.Value
