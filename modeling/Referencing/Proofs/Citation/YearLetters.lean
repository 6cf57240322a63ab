import Mathlib.Data.List.Basic
import Referencing.Proofs.Citation.Ambiguity
import Referencing.Proofs.Citation.FirstCitations
import Referencing.Proofs.Citation.LetterNumbers

namespace Referencing.Disambiguation

open Citation

variable {library : Library} {options : CitationOptions}

-- The identities that a document gives, in the order in which they are first given.
def identities (library : Library) (options : CitationOptions) (occurrences : List Occurrence) :
    List Text :=
  (occurrences.filterMap (identityOf? library options)).eraseDups

-- The resources cited under an identity, in the order in which they first are.
def citedUnder (library : Library) (options : CitationOptions) (occurrences : List Occurrence)
    (identity : Text) : List Text :=
  ((occurrences.filter (identityOf? library options · = some identity)).map (·.id)).eraseDups

def isShared (id : Text) (ids : List Text) : Bool :=
  1 < ids.length && ids.contains id

-- The identities that a resource has in common with another one.
def sharedIdentities (library : Library) (options : CitationOptions)
    (occurrences : List Occurrence) (id : Text) : List Text :=
  (identities library options occurrences).filter fun identity =>
    isShared id (citedUnder library options occurrences identity)

-- The place of a resource under the identity that it shared last, counted from one.
def letterRank? (library : Library) (options : CitationOptions) (occurrences : List Occurrence)
    (id : Text) : Option Nat :=
  (sharedIdentities library options occurrences id).getLast?.map fun identity =>
    (citedUnder library options occurrences identity).idxOf id + 1

theorem entries_eq_map_keys (groups : Groups) :
    groups.entries = groups.keys.map fun identity => (identity, members groups identity) := by
  have hentry : ∀ entry ∈ groups.entries, entry = (entry.1, members groups entry.1) := by
    intro entry hmem
    rw [members_of_mem_entries hmem]
  rw [Dict.keys, List.map_map]
  exact (List.map_id _).symm.trans (List.map_congr_left hentry)

theorem keys_groupsOf (occurrences : List Occurrence) :
    (groupsOf library options occurrences).keys = identities library options occurrences := by
  induction occurrences using List.reverseRecOn with
  | nil => rfl
  | append_singleton occurrences occurrence ih =>
    rw [groupsOf, List.foldl_append, List.foldl_cons, List.foldl_nil, ← groupsOf]
    rw [identities] at ih ⊢
    cases h : identityOf? library options occurrence with
    | none =>
      rw [addOccurrence_of_none h, ih]
      simp [h]
    | some identity =>
      rw [addOccurrence_of_some h, addTo, Dict.keys_insert, ih, List.filterMap_append]
      simp only [h, List.filterMap_cons, List.filterMap_nil, List.mem_eraseDups]
      split
      · next hmem => rw [eraseDups_concat_of_mem hmem]
      · next hnot => rw [eraseDups_concat_of_not_mem hnot]

theorem members_groupsOf (occurrences : List Occurrence) (identity : Text) :
    members (groupsOf library options occurrences) identity =
      citedUnder library options occurrences identity := by
  induction occurrences using List.reverseRecOn with
  | nil => rfl
  | append_singleton occurrences occurrence ih =>
    rw [groupsOf, List.foldl_append, List.foldl_cons, List.foldl_nil, ← groupsOf]
    rw [citedUnder] at ih ⊢
    cases h : identityOf? library options occurrence with
    | none =>
      rw [addOccurrence_of_none h, ih]
      simp [h]
    | some found =>
      rw [addOccurrence_of_some h, members_addTo]
      by_cases hsame : identity = found
      · subst hsame
        rw [if_pos rfl, ih, List.filter_append, List.map_append]
        simp only [List.mem_eraseDups]
        split
        · next hmem => simp [h, eraseDups_concat_of_mem hmem]
        · next hnot => simp [h, eraseDups_concat_of_not_mem hnot]
      · rw [if_neg hsame, ih]
        simp [h, Ne.symm hsame]

theorem letter?_mark (h : options.ambiguity = .yearLetter) (state : Disambiguation)
    (id other : Text) (rank : Nat) :
    (mark options state id (rank + 1)).letter? other =
      if other = id then some (Citation.letters (rank + 1)) else state.letter? other := by
  simp [letter?, mark, h, letters?]

theorem letter?_foldl_mark (h : options.ambiguity = .yearLetter) {ids : List Text}
    (hnodup : ids.Nodup) (start : Nat) (state : Disambiguation) (id : Text) :
    ((ids.zipIdx start).foldl (fun state (id, index) => mark options state id (index + 1))
        state).letter? id =
      if id ∈ ids then some (Citation.letters (start + ids.idxOf id + 1))
      else state.letter? id := by
  induction ids generalizing start state with
  | nil => simp
  | cons first rest ih =>
    rw [List.nodup_cons] at hnodup
    rw [List.zipIdx_cons, List.foldl_cons, ih hnodup.2, letter?_mark h]
    by_cases hfirst : id = first
    · subst hfirst
      simp [hnodup.1]
    · have hrank : start + (first :: rest).idxOf id = start + 1 + rest.idxOf id := by
        rw [List.idxOf_cons, beq_false_of_ne (Ne.symm hfirst), cond_false]
        omega
      simp only [List.mem_cons, hfirst, false_or, if_false, hrank]

theorem letter?_markGroup (h : options.ambiguity = .yearLetter) {ids : List Text}
    (hnodup : ids.Nodup) (state : Disambiguation) (id : Text) :
    (markGroup options state ids).letter? id =
      if isShared id ids then some (Citation.letters (ids.idxOf id + 1)) else state.letter? id := by
  by_cases hlength : ids.length ≤ 1
  · simp [markGroup, hlength, isShared, Nat.not_lt.2 hlength]
  · rw [markGroup, if_neg hlength, letter?_foldl_mark h hnodup]
    simp [isShared, Nat.lt_of_not_le hlength]

-- Of the groups that a resource is in, the last one decides.
theorem letter?_foldl_markGroup (h : options.ambiguity = .yearLetter)
    (entries : List (Text × List Text)) (hnodup : ∀ entry ∈ entries, entry.2.Nodup) (id : Text) :
    (entries.foldl (fun state entry => markGroup options state entry.2) {}).letter? id =
      (entries.filter (isShared id ·.2)).getLast?.map fun entry =>
        Citation.letters (entry.2.idxOf id + 1) := by
  induction entries using List.reverseRecOn with
  | nil => rfl
  | append_singleton entries entry ih =>
    rw [List.foldl_append, List.foldl_cons, List.foldl_nil,
      letter?_markGroup h (hnodup entry (by simp)),
      ih fun other hother => hnodup other (List.mem_append_left _ hother)]
    by_cases hshared : isShared id entry.2 <;> simp [hshared]

theorem letter?_ofOccurrences (h : options.ambiguity = .yearLetter) (occurrences : List Occurrence)
    (id : Text) :
    (ofOccurrences library options occurrences).letter? id =
      (letterRank? library options occurrences id).map Citation.letters := by
  have hentries : (groupsOf library options occurrences).entries =
      (identities library options occurrences).map fun identity =>
        (identity, citedUnder library options occurrences identity) := by
    rw [entries_eq_map_keys, keys_groupsOf]
    simp only [members_groupsOf]
  rw [ofOccurrences, ofGroups, ← groupsOf, hentries, letter?_foldl_markGroup h]
  · simp [letterRank?, sharedIdentities, List.filter_map, Function.comp_def]
  · intro entry hentry
    obtain ⟨identity, -, rfl⟩ := List.mem_map.1 hentry
    exact nodup_eraseDups _

theorem mem_citedUnder {occurrences : List Occurrence} {identity id : Text} :
    id ∈ citedUnder library options occurrences identity ↔
      ∃ occurrence ∈ occurrences, occurrence.id = id ∧
        identityOf? library options occurrence = some identity := by
  rw [← members_groupsOf, mem_members_groupsOf]

-- The identity that a resource shared last is one that it shares.
theorem isShared_of_getLast? {occurrences : List Occurrence} {identity id : Text}
    (h : (sharedIdentities library options occurrences id).getLast? = some identity) :
    isShared id (citedUnder library options occurrences identity) :=
  (List.mem_filter.1 (List.mem_of_getLast? h)).2

theorem exists_lastShared {occurrences : List Occurrence} {first second : Occurrence}
    (hfirst : first ∈ occurrences) (hsecond : second ∈ occurrences) (hne : second.id ≠ first.id)
    (hknown : (identityOf? library options first).isSome)
    (hshared : identityOf? library options second = identityOf? library options first) :
    ∃ identity, (sharedIdentities library options occurrences first.id).getLast? =
      some identity := by
  obtain ⟨identity, hidentity⟩ := Option.isSome_iff_exists.1 hknown
  have hcited : first.id ∈ citedUnder library options occurrences identity :=
    mem_citedUnder.2 ⟨first, hfirst, rfl, hidentity⟩
  have hother : second.id ∈ citedUnder library options occurrences identity :=
    mem_citedUnder.2 ⟨second, hsecond, rfl, hshared.trans hidentity⟩
  have hlength : 1 < (citedUnder library options occurrences identity).length :=
    (one_lt_length_iff (nodup_eraseDups _) hcited).2 ⟨second.id, hother, hne⟩
  have hmem : identity ∈ sharedIdentities library options occurrences first.id := by
    rw [sharedIdentities, List.mem_filter, identities, List.mem_eraseDups, List.mem_filterMap]
    exact ⟨⟨first, hfirst, hidentity⟩, by simp [isShared, hlength, hcited]⟩
  exact ⟨_, List.getLast?_eq_some_getLast (List.ne_nil_of_mem hmem)⟩

-- Two resources cited under one identity both have a letter. Each has that of its
-- place under the identity that it shared last, so the letters are different
-- exactly when these places are.
theorem yearLetters_ne_iff (library : Library) (options : CitationOptions)
    (occurrences : List Occurrence) (first second : Occurrence)
    (hstrategy : options.ambiguity = .yearLetter) (hfirst : first ∈ occurrences)
    (hsecond : second ∈ occurrences)
    (hne : first.id ≠ second.id) (hknown : (identityOf? library options first).isSome)
    (hshared : identityOf? library options second = identityOf? library options first) :
    ∃ left right,
      letterRank? library options occurrences first.id = some left ∧
      letterRank? library options occurrences second.id = some right ∧
      (ofOccurrences library options occurrences).letter? first.id = some (Citation.letters left) ∧
      (ofOccurrences library options occurrences).letter? second.id =
        some (Citation.letters right) ∧
      (Citation.letters left ≠ Citation.letters right ↔ left ≠ right) ∧
      ((sharedIdentities library options occurrences first.id).getLast? =
          (sharedIdentities library options occurrences second.id).getLast? → left ≠ right) := by
  obtain ⟨firstLast, hfirstLast⟩ := exists_lastShared hfirst hsecond (Ne.symm hne) hknown hshared
  obtain ⟨secondLast, hsecondLast⟩ :=
    exists_lastShared hsecond hfirst hne (hshared ▸ hknown) hshared.symm
  have hleft : letterRank? library options occurrences first.id =
      some ((citedUnder library options occurrences firstLast).idxOf first.id + 1) := by
    rw [letterRank?, hfirstLast, Option.map_some]
  have hright : letterRank? library options occurrences second.id =
      some ((citedUnder library options occurrences secondLast).idxOf second.id + 1) := by
    rw [letterRank?, hsecondLast, Option.map_some]
  refine ⟨_, _, hleft, hright, ?_, ?_, ⟨?_, ?_⟩, ?_⟩
  · rw [letter?_ofOccurrences hstrategy, hleft, Option.map_some]
  · rw [letter?_ofOccurrences hstrategy, hright, Option.map_some]
  · exact fun hletters hranks => hletters (congrArg Citation.letters hranks)
  · exact fun hranks hletters => hranks (letters_injective hletters)
  · intro hsame hranks
    rw [hfirstLast, hsecondLast, Option.some.injEq] at hsame
    subst hsame
    have hmem := isShared_of_getLast? hfirstLast
    simp only [isShared, Bool.and_eq_true, List.contains_iff_mem] at hmem
    exact hne ((List.idxOf_inj hmem.2).1 (Nat.succ.inj hranks))

-- An occurrence that says itself who the creators are.
def citedAs (creators : String) (id : Char) : Occurrence :=
  { id := [id], creatorIds := creators.toList }

def worksOf2004 (ids : List Char) : Library :=
  .ofList (ids.map fun id => { id := [id], values := .ofList [("year1".toList, "2004".toList)] })

-- A further identity that only one of the two shares does no harm as long as their
-- places differ.
theorem yearLetters_of_two_creators :
    let occurrences := [citedAs "1" 'a', citedAs "1" 'b', citedAs "2" 'c', citedAs "2" 'b']
    let library := worksOf2004 ['a', 'b', 'c']
    let state := ofOccurrences library {} occurrences
    identityOf? library {} (citedAs "1" 'a') = some "1|2004".toList ∧
      identityOf? library {} (citedAs "1" 'b') = some "1|2004".toList ∧
      ∃ left right, state.letter? ['a'] = some left ∧ state.letter? ['b'] = some right ∧
        left ≠ right := by
  intro occurrences library state
  refine ⟨by decide, by decide, ?_⟩
  obtain ⟨left, right, hleft, hright, hfirst, hsecond, hletters, -⟩ :=
    yearLetters_ne_iff library {} occurrences (citedAs "1" 'a') (citedAs "1" 'b') rfl (by decide)
      (by decide) (by decide) (by decide) (by decide)
  refine ⟨_, _, hfirst, hsecond, hletters.2 ?_⟩
  have ha : letterRank? library {} occurrences ['a'] = some 1 := by decide
  have hb : letterRank? library {} occurrences ['b'] = some 2 := by decide
  have hone := Option.some.inj (hleft.symm.trans ha)
  have htwo := Option.some.inj (hright.symm.trans hb)
  omega

-- The letter that a later identity gives takes the place of an earlier one: two
-- works of the same creators and year are left with the same letter.
theorem yearLetters_eq_after_second_identity :
    let occurrences := [citedAs "1" 'a', citedAs "1" 'b', citedAs "2" 'b', citedAs "2" 'c']
    let library := worksOf2004 ['a', 'b', 'c']
    let state := ofOccurrences library {} occurrences
    identityOf? library {} (citedAs "1" 'a') = some "1|2004".toList ∧
      identityOf? library {} (citedAs "1" 'b') = some "1|2004".toList ∧
      state.letter? ['a'] = some ['a'] ∧ state.letter? ['b'] = some ['a'] := by
  decide +kernel

end Referencing.Disambiguation
