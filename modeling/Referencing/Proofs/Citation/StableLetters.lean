import Referencing.Proofs.Citation.YearLetters

namespace Referencing.Disambiguation

open Citation

variable {library : Library} {options : CitationOptions} {occurrences : List Occurrence}

-- All occurrences of one resource name the same creators.
def NamesAlike (library : Library) (occurrences : List Occurrence) : Prop :=
  ∀ left ∈ occurrences, ∀ right ∈ occurrences, left.id = right.id →
    (library.get? left.id).isSome → left.creatorIds = right.creatorIds

instance : Decidable (NamesAlike library occurrences) :=
  inferInstanceAs (Decidable (∀ left ∈ occurrences, ∀ right ∈ occurrences, left.id = right.id →
    (library.get? left.id).isSome → left.creatorIds = right.creatorIds))

section NamesAlike

variable (h : NamesAlike library occurrences) {occurrence other : Occurrence}

include h

theorem NamesAlike.identityOf?_eq (hmem : occurrence ∈ occurrences) (hother : other ∈ occurrences)
    (hid : other.id = occurrence.id) :
    identityOf? library options other = identityOf? library options occurrence := by
  rw [identityOf?, identityOf?, hid]
  cases hget : library.get? occurrence.id with
  | none => rfl
  | some resource => rw [h other hother occurrence hmem hid (by simp [hid, hget])]

-- A resource is cited under one identity alone.
theorem NamesAlike.eq_of_mem_citedUnder {identity found : Text} (hmem : occurrence ∈ occurrences)
    (hidentity : identityOf? library options occurrence = some identity)
    (hcited : occurrence.id ∈ citedUnder library options occurrences found) : found = identity := by
  obtain ⟨other, hother, hid, hfound⟩ := mem_citedUnder.1 hcited
  rw [h.identityOf?_eq hmem hother hid, hidentity] at hfound
  exact (Option.some.inj hfound).symm

theorem NamesAlike.sharesIdentity_iff {identity : Text} (hmem : occurrence ∈ occurrences)
    (hidentity : identityOf? library options occurrence = some identity) :
    SharesIdentity library options occurrences occurrence.id ↔
      ∃ other ∈ occurrences, other.id ≠ occurrence.id ∧
        identityOf? library options other = some identity := by
  constructor
  · rintro ⟨same, hsame, other, hother, hid, hne, -, hshared⟩
    exact ⟨other, hother, hne,
      hshared.trans ((h.identityOf?_eq hmem hsame hid).trans hidentity)⟩
  · rintro ⟨other, hother, hne, hshared⟩
    exact ⟨occurrence, hmem, other, hother, rfl, hne, by simp [hidentity],
      hshared.trans hidentity.symm⟩

end NamesAlike

theorem isSome_letterRank?_iff (id : Text) :
    (letterRank? library options occurrences id).isSome ↔
      SharesIdentity library options occurrences id := by
  rw [letterRank?, Option.isSome_map]
  constructor
  · intro hsome
    obtain ⟨identity, hlast⟩ := Option.isSome_iff_exists.1 hsome
    have hshared := isShared_of_getLast? hlast
    simp only [isShared, Bool.and_eq_true, decide_eq_true_eq, List.contains_iff_mem] at hshared
    obtain ⟨hlength, hcited⟩ := hshared
    obtain ⟨otherId, hotherCited, hne⟩ :=
      (one_lt_length_iff (nodup_eraseDups _) hcited).1 hlength
    obtain ⟨occurrence, hmem, hid, hidentity⟩ := mem_citedUnder.1 hcited
    obtain ⟨other, hother, hotherId, hotherIdentity⟩ := mem_citedUnder.1 hotherCited
    exact ⟨occurrence, hmem, other, hother, hid, hotherId ▸ hne, by simp [hidentity],
      hotherIdentity.trans hidentity.symm⟩
  · rintro ⟨occurrence, hmem, other, hother, rfl, hne, hknown, hshared⟩
    obtain ⟨identity, hlast⟩ := exists_lastShared hmem hother hne hknown hshared
    rw [hlast, Option.isSome_some]

-- The rank of a resource under its only identity is that of its letter.
theorem NamesAlike.letterRank?_eq (h : NamesAlike library occurrences) {occurrence : Occurrence}
    {identity : Text} (hmem : occurrence ∈ occurrences)
    (hidentity : identityOf? library options occurrence = some identity)
    (hshares : SharesIdentity library options occurrences occurrence.id) :
    letterRank? library options occurrences occurrence.id =
      some ((citedUnder library options occurrences identity).idxOf occurrence.id + 1) := by
  have hsome := (isSome_letterRank?_iff occurrence.id).2 hshares
  rw [letterRank?, Option.isSome_map] at hsome
  obtain ⟨found, hlast⟩ := Option.isSome_iff_exists.1 hsome
  have hshared := isShared_of_getLast? hlast
  simp only [isShared, Bool.and_eq_true, List.contains_iff_mem] at hshared
  rw [letterRank?, hlast, Option.map_some, h.eq_of_mem_citedUnder hmem hidentity hshared.2]

theorem letters_mark (h : options.ambiguity ≠ .yearLetter) (state : Disambiguation) (id : Text)
    (rank : Nat) : (mark options state id rank).letters = state.letters := by
  cases hambiguity : options.ambiguity with
  | yearLetter => exact absurd hambiguity h
  | template => simp only [mark, hambiguity]

theorem letters_markGroup (h : options.ambiguity ≠ .yearLetter) (state : Disambiguation)
    (ids : List Text) : (markGroup options state ids).letters = state.letters := by
  unfold markGroup
  split
  · rfl
  · exact List.foldlRecOn _ _ (motive := fun marked : Disambiguation =>
      marked.letters = state.letters) rfl
      fun _ hmarked _ _ => (letters_mark h _ _ _).trans hmarked

theorem letters_ofGroups (h : options.ambiguity ≠ .yearLetter) (groups : Groups) :
    (ofGroups options groups).letters = Dict.empty := by
  rw [ofGroups]
  exact List.foldlRecOn _ _ (motive := fun marked : Disambiguation =>
    marked.letters = Dict.empty) rfl
    fun _ hmarked _ _ => (letters_markGroup h _ _).trans hmarked

-- Only where works are told apart by letters there are any, and then all works that
-- are to be told apart have one.
theorem isSome_letter?_iff (id : Text) :
    ((ofOccurrences library options occurrences).letter? id).isSome ↔
      options.ambiguity = .yearLetter ∧
        (ofOccurrences library options occurrences).isAmbiguous id = true := by
  by_cases hstrategy : options.ambiguity = .yearLetter
  · rw [letter?_ofOccurrences hstrategy, Option.isSome_map, isSome_letterRank?_iff,
      isAmbiguous_ofOccurrences_iff]
    simp [hstrategy]
  · rw [letter?, ofOccurrences, letters_ofGroups hstrategy]
    simp [hstrategy]

-- A further citation of a resource under the same identity leaves its group.
theorem addOccurrence_of_mem_members {groups : Groups} {occurrence : Occurrence} {identity : Text}
    (hidentity : identityOf? library options occurrence = some identity)
    (hmem : occurrence.id ∈ members groups identity) :
    addOccurrence library options groups occurrence = groups := by
  rw [addOccurrence_of_some hidentity, addTo]
  cases hget : groups.get? identity with
  | none => simp [members, hget] at hmem
  | some ids =>
    rw [members, hget, Option.getD_some] at hmem
    simp [hmem, Dict.insert_of_get? hget]

theorem ofOccurrences_skip {before : List Occurrence} {occurrence : Occurrence}
    (after : List Occurrence)
    (h : addOccurrence library options (groupsOf library options before) occurrence =
      groupsOf library options before) :
    ofOccurrences library options (before ++ occurrence :: after) =
      ofOccurrences library options (before ++ after) := by
  rw [groupsOf] at h
  rw [ofOccurrences, ofOccurrences, List.foldl_append, List.foldl_append, List.foldl_cons, h]

theorem NamesAlike.ofOccurrences_skip {before after : List Occurrence} {occurrence : Occurrence}
    (h : NamesAlike library (before ++ occurrence :: after))
    (hskip : library.get? occurrence.id = none ∨ occurrence.id ∈ before.map (·.id)) :
    ofOccurrences library options (before ++ occurrence :: after) =
      ofOccurrences library options (before ++ after) := by
  refine Disambiguation.ofOccurrences_skip after ?_
  cases hidentity : identityOf? library options occurrence with
  | none => exact addOccurrence_of_none hidentity
  | some identity =>
    refine addOccurrence_of_mem_members hidentity ?_
    rcases hskip with hunknown | hrepeated
    · simp [identityOf?, hunknown] at hidentity
    · obtain ⟨earlier, hearlier, hid⟩ := List.mem_map.1 hrepeated
      have hsame : identityOf? library options earlier = identityOf? library options occurrence :=
        h.identityOf?_eq (by simp) (by simp [hearlier]) hid
      exact (mem_members_groupsOf before identity occurrence.id).2
        ⟨earlier, hearlier, hid, hsame.trans hidentity⟩

-- Further occurrences come after those that decide the letters there are.
theorem NamesAlike.letter?_append {more : List Occurrence}
    (h : NamesAlike library (occurrences ++ more)) {id letter : Text}
    (hletter : (ofOccurrences library options occurrences).letter? id = some letter) :
    (ofOccurrences library options (occurrences ++ more)).letter? id = some letter := by
  have hsome := (isSome_letter?_iff id).1 (Option.isSome_iff_exists.2 ⟨letter, hletter⟩)
  obtain ⟨hstrategy, hambiguous⟩ := hsome
  rw [isAmbiguous_ofOccurrences_iff] at hambiguous
  obtain ⟨occurrence, hmem, other, hother, rfl, hne, hknown, hshared⟩ := hambiguous
  obtain ⟨identity, hidentity⟩ := Option.isSome_iff_exists.1 hknown
  have halike : NamesAlike library occurrences := fun left hleft right hright =>
    h left (List.mem_append_left _ hleft) right (List.mem_append_left _ hright)
  have hcited : occurrence.id ∈
      (occurrences.filter (identityOf? library options · = some identity)).map (·.id) :=
    List.mem_map.2 ⟨occurrence, List.mem_filter.2 ⟨hmem, by simp [hidentity]⟩, rfl⟩
  have hrank : (citedUnder library options (occurrences ++ more) identity).idxOf occurrence.id =
      (citedUnder library options occurrences identity).idxOf occurrence.id := by
    rw [citedUnder, citedUnder, List.filter_append, List.map_append,
      idxOf_eraseDups_append _ hcited]
  rw [letter?_ofOccurrences hstrategy, halike.letterRank?_eq hmem hidentity
    ⟨occurrence, hmem, other, hother, rfl, hne, hknown, hshared⟩] at hletter
  rw [letter?_ofOccurrences hstrategy, h.letterRank?_eq (List.mem_append_left _ hmem) hidentity
    ⟨occurrence, List.mem_append_left _ hmem, other, List.mem_append_left _ hother, rfl, hne,
      hknown, hshared⟩, hrank]
  exact hletter

-- What tells works apart is decided by the first citations under their identities:
-- which of them are ambiguous, and their letters, which later occurrences leave as
-- they are.
theorem letters_of_first_citations (library : Library) (options : CitationOptions)
    (occurrences : List Occurrence) (h : NamesAlike library occurrences) :
    let state := ofOccurrences library options occurrences
    (∀ occurrence ∈ occurrences, ∀ identity,
      identityOf? library options occurrence = some identity →
      (state.isAmbiguous occurrence.id = true ↔
        ∃ other ∈ occurrences, other.id ≠ occurrence.id ∧
          identityOf? library options other = some identity) ∧
      (options.ambiguity = .yearLetter → state.isAmbiguous occurrence.id = true →
        state.letter? occurrence.id =
          letters? ((citedUnder library options occurrences identity).idxOf occurrence.id + 1))) ∧
    (∀ id, (state.letter? id).isSome ↔
      options.ambiguity = .yearLetter ∧ state.isAmbiguous id = true) ∧
    (∀ id, state.isAmbiguous id = true → ∃ occurrence ∈ occurrences, occurrence.id = id ∧
      (identityOf? library options occurrence).isSome) ∧
    (∀ before occurrence after, occurrences = before ++ occurrence :: after →
      library.get? occurrence.id = none ∨ occurrence.id ∈ before.map (·.id) →
      ofOccurrences library options (before ++ after) = state) ∧
    ∀ more, NamesAlike library (occurrences ++ more) → ∀ id letter,
      state.letter? id = some letter →
      (ofOccurrences library options (occurrences ++ more)).letter? id = some letter := by
  refine ⟨?_, isSome_letter?_iff, ?_, ?_, fun more hmore id letter => hmore.letter?_append⟩
  · intro occurrence hmem identity hidentity
    rw [isAmbiguous_ofOccurrences_iff]
    refine ⟨h.sharesIdentity_iff hmem hidentity, fun hstrategy hshares => ?_⟩
    rw [letter?_ofOccurrences hstrategy, h.letterRank?_eq hmem hidentity hshares]
    rfl
  · intro id hambiguous
    obtain ⟨occurrence, hmem, -, -, hid, -, hknown, -⟩ :=
      (isAmbiguous_ofOccurrences_iff occurrences id).1 hambiguous
    exact ⟨occurrence, hmem, hid, hknown⟩
  · rintro before occurrence after rfl hskip
    exact (h.ofOccurrences_skip hskip).symm

-- A repetition and a work that the library does not have leave the letter b to the
-- second work, and so does a third one that is cited later.
theorem second_letter_after_repetition :
    let occurrences :=
      [citedAs "1" 'a', citedAs "2" 'x', citedAs "1" 'a', citedAs "1" 'b', citedAs "2" 'c']
    let library := worksOf2004 ['d', 'c', 'b', 'a']
    let state := ofOccurrences library {} occurrences
    NamesAlike library occurrences ∧
      identityOf? library {} (citedAs "1" 'b') = some "1|2004".toList ∧
      state.letter? ['b'] = letters? 2 ∧
      (state.letter? ['c']).isSome = false ∧
      ofOccurrences library {}
        [citedAs "1" 'a', citedAs "1" 'a', citedAs "1" 'b', citedAs "2" 'c'] = state ∧
      (ofOccurrences library {} (occurrences ++ [citedAs "1" 'd'])).letter? ['b'] =
        letters? 2 := by
  intro occurrences library state
  have halike : NamesAlike library occurrences := by decide
  have hidentity : identityOf? library {} (citedAs "1" 'b') = some "1|2004".toList := by decide
  obtain ⟨hcited, hsome, -, hskip, happend⟩ :=
    letters_of_first_citations library {} occurrences halike
  obtain ⟨hambiguous, hletter⟩ := hcited (citedAs "1" 'b') (by decide) _ hidentity
  have hsecond : state.letter? ['b'] = letters? 2 :=
    hletter rfl (hambiguous.2 ⟨citedAs "1" 'a', by decide, by decide, by decide⟩)
  have hunknown := hskip [citedAs "1" 'a'] (citedAs "2" 'x')
    [citedAs "1" 'a', citedAs "1" 'b', citedAs "2" 'c'] rfl (.inl (by decide))
  refine ⟨halike, hidentity, hsecond, by decide +kernel, hunknown, ?_⟩
  exact happend [citedAs "1" 'd'] (by decide) ['b'] _ hsecond

end Referencing.Disambiguation
