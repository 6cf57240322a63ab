import Mathlib.Data.List.Basic
import Mathlib.Data.List.Induction
import Referencing.Proofs.Citation.Known

namespace Referencing.Disambiguation

variable {library : Library} {options : CitationOptions}

-- The identity that an occurrence gives to its resource.
def identityOf? (library : Library) (options : CitationOptions) (occurrence : Occurrence) :
    Option Text :=
  (library.get? occurrence.id).bind (identity? options occurrence.creatorIds)

-- Another resource is cited under an identity of this one.
def SharesIdentity (library : Library) (options : CitationOptions)
    (occurrences : List Occurrence) (id : Text) : Prop :=
  ∃ occurrence ∈ occurrences, ∃ other ∈ occurrences,
    occurrence.id = id ∧ other.id ≠ id ∧ (identityOf? library options occurrence).isSome ∧
      identityOf? library options other = identityOf? library options occurrence

instance (occurrences : List Occurrence) (id : Text) :
    Decidable (SharesIdentity library options occurrences id) := by
  unfold SharesIdentity
  infer_instance

def members (groups : Groups) (identity : Text) : List Text :=
  (groups.get? identity).getD []

theorem members_of_mem_entries {groups : Groups} {entry : Text × List Text}
    (h : entry ∈ groups.entries) : members groups entry.1 = entry.2 := by
  rw [members, (Dict.get?_eq_some_iff groups entry.1 entry.2).2 h, Option.getD_some]

-- An identity without a group has no members.
theorem mem_entries_of_mem_members {groups : Groups} {identity id : Text}
    (h : id ∈ members groups identity) : (identity, members groups identity) ∈ groups.entries := by
  cases hget : groups.get? identity with
  | none => simp [members, hget] at h
  | some ids =>
    rw [members, hget, Option.getD_some]
    exact (Dict.get?_eq_some_iff _ _ _).1 hget

theorem members_addTo (groups : Groups) (identity id other : Text) :
    members (addTo groups identity id) other =
      if other = identity then
        if id ∈ members groups identity then members groups identity
        else members groups identity ++ [id]
      else members groups other := by
  by_cases h : other = identity
  · by_cases hid : id ∈ (groups.get? identity).getD [] <;> simp [members, addTo, h, hid]
  · simp [members, addTo, h]

theorem mem_members_addTo (groups : Groups) (identity id other member : Text) :
    member ∈ members (addTo groups identity id) other ↔
      member ∈ members groups other ∨ (other = identity ∧ member = id) := by
  rw [members_addTo]
  by_cases h : other = identity
  · subst h
    by_cases hid : id ∈ members groups other
    · simp only [hid, if_true, true_and]
      exact ⟨Or.inl, fun hmem => hmem.elim (fun hmem => hmem) fun same => same ▸ hid⟩
    · simp [hid]
  · simp [h]

theorem nodup_members_addTo {groups : Groups} (identity id other : Text)
    (h : ∀ identity, (members groups identity).Nodup) :
    (members (addTo groups identity id) other).Nodup := by
  rw [members_addTo]
  by_cases hother : other = identity
  · by_cases hid : id ∈ members groups identity
    · simpa [hother, hid] using h identity
    · simp only [hother, if_true, hid, if_false]
      refine List.nodup_append.2 ⟨h identity, by simp, ?_⟩
      rintro member hmember _ hsame rfl
      exact hid (List.mem_singleton.1 hsame ▸ hmember)
  · simpa [hother] using h other

theorem addOccurrence_of_none {groups : Groups} {occurrence : Occurrence}
    (h : identityOf? library options occurrence = none) :
    addOccurrence library options groups occurrence = groups := by
  rw [identityOf?] at h
  simp only [addOccurrence, h]

theorem addOccurrence_of_some {groups : Groups} {occurrence : Occurrence} {identity : Text}
    (h : identityOf? library options occurrence = some identity) :
    addOccurrence library options groups occurrence = addTo groups identity occurrence.id := by
  rw [identityOf?] at h
  simp only [addOccurrence, h]

def groupsOf (library : Library) (options : CitationOptions) (occurrences : List Occurrence) :
    Groups :=
  occurrences.foldl (addOccurrence library options) Dict.empty

-- A group holds the resources that were given its identity, each once.
theorem mem_members_groupsOf (occurrences : List Occurrence) (identity id : Text) :
    id ∈ members (groupsOf library options occurrences) identity ↔
      ∃ occurrence ∈ occurrences, occurrence.id = id ∧
        identityOf? library options occurrence = some identity := by
  induction occurrences using List.reverseRecOn with
  | nil => simp [groupsOf, members]
  | append_singleton occurrences occurrence ih =>
    rw [groupsOf, List.foldl_append, List.foldl_cons, List.foldl_nil, ← groupsOf]
    cases h : identityOf? library options occurrence with
    | none =>
      rw [addOccurrence_of_none h, ih]
      simp [or_and_right, exists_or, h]
    | some found =>
      rw [addOccurrence_of_some h, mem_members_addTo, ih]
      simp [or_and_right, exists_or, h, eq_comm, and_comm]

theorem nodup_members_groupsOf (library : Library) (options : CitationOptions)
    (occurrences : List Occurrence) (identity : Text) :
    (members (groupsOf library options occurrences) identity).Nodup := by
  induction occurrences using List.reverseRecOn generalizing identity with
  | nil => simp [groupsOf, members]
  | append_singleton occurrences occurrence ih =>
    rw [groupsOf, List.foldl_append, List.foldl_cons, List.foldl_nil, ← groupsOf]
    cases h : identityOf? library options occurrence with
    | none => rw [addOccurrence_of_none h]; exact ih identity
    | some found => rw [addOccurrence_of_some h]; exact nodup_members_addTo found _ identity ih

theorem mem_ambiguous_mark (state : Disambiguation) (id other : Text) (rank : Nat) :
    other ∈ (mark options state id rank).ambiguous ↔ other ∈ state.ambiguous ∨ other = id := by
  by_cases h : id ∈ state.ambiguous
  · simp only [mark, List.contains_eq_mem, h, decide_true, if_true]
    exact ⟨Or.inl, fun hmem => hmem.elim (fun hmem => hmem) fun same => same ▸ h⟩
  · simp [mark, h]

theorem mem_ambiguous_foldl_mark (ranked : List (Text × Nat)) (state : Disambiguation)
    (other : Text) :
    other ∈ (ranked.foldl (fun state (id, index) => mark options state id (index + 1))
        state).ambiguous ↔ other ∈ state.ambiguous ∨ other ∈ ranked.map (·.1) := by
  induction ranked generalizing state with
  | nil => simp
  | cons entry rest ih =>
    rw [List.foldl_cons, ih, mem_ambiguous_mark, List.map_cons, List.mem_cons, or_assoc]

theorem mem_ambiguous_markGroup (state : Disambiguation) (ids : List Text) (other : Text) :
    other ∈ (markGroup options state ids).ambiguous ↔
      other ∈ state.ambiguous ∨ (1 < ids.length ∧ other ∈ ids) := by
  by_cases h : ids.length ≤ 1
  · simp [markGroup, h, Nat.not_lt.2 h]
  · rw [markGroup, if_neg h, mem_ambiguous_foldl_mark, List.zipIdx_map_fst]
    simp [Nat.lt_of_not_le h]

theorem mem_ambiguous_ofGroups (groups : Groups) (other : Text) :
    other ∈ (ofGroups options groups).ambiguous ↔
      ∃ entry ∈ groups.entries, 1 < entry.2.length ∧ other ∈ entry.2 := by
  have hfold : ∀ (entries : List (Text × List Text)) (state : Disambiguation),
      other ∈ (entries.foldl (fun state entry => markGroup options state entry.2)
          state).ambiguous ↔
        other ∈ state.ambiguous ∨ ∃ entry ∈ entries, 1 < entry.2.length ∧ other ∈ entry.2 := by
    intro entries
    induction entries with
    | nil => simp
    | cons entry rest ih =>
      intro state
      rw [List.foldl_cons, ih, mem_ambiguous_markGroup, or_assoc]
      simp
  simpa [ofGroups] using hfold groups.entries {}

theorem one_lt_length_iff {ids : List Text} {id : Text} (hnodup : ids.Nodup) (hid : id ∈ ids) :
    1 < ids.length ↔ ∃ other ∈ ids, other ≠ id := by
  cases ids with
  | nil => simp at hid
  | cons first rest =>
    cases rest with
    | nil =>
      have hfirst : id = first := by simpa using hid
      simp [hfirst]
    | cons second rest =>
      have hne : first ≠ second := by
        rintro rfl
        simp at hnodup
      simp only [List.length_cons]
      refine ⟨fun _ => ?_, fun _ => by omega⟩
      by_cases hfirst : first = id
      · exact ⟨second, by simp, fun same => hne (hfirst.trans same.symm)⟩
      · exact ⟨first, by simp, hfirst⟩

-- A resource is ambiguous if and only if another one is cited under the same
-- identity.
theorem isAmbiguous_ofOccurrences_iff (occurrences : List Occurrence) (id : Text) :
    (ofOccurrences library options occurrences).isAmbiguous id = true ↔
      SharesIdentity library options occurrences id := by
  have hstate : (ofOccurrences library options occurrences).isAmbiguous id = true ↔
      id ∈ (ofGroups options (groupsOf library options occurrences)).ambiguous := by
    simp [isAmbiguous, ofOccurrences, groupsOf]
  rw [hstate, mem_ambiguous_ofGroups]
  constructor
  · rintro ⟨entry, hentry, hlength, hid⟩
    rw [← members_of_mem_entries hentry] at hlength hid
    have hnodup := nodup_members_groupsOf library options occurrences entry.1
    obtain ⟨otherId, hother, hne⟩ := (one_lt_length_iff hnodup hid).1 hlength
    obtain ⟨occurrence, hmem, hsame, hidentity⟩ := (mem_members_groupsOf _ _ _).1 hid
    obtain ⟨other, homem, hosame, hoidentity⟩ := (mem_members_groupsOf _ _ _).1 hother
    exact ⟨occurrence, hmem, other, homem, hsame, hosame ▸ hne, by simp [hidentity],
      hoidentity.trans hidentity.symm⟩
  · rintro ⟨occurrence, hmem, other, homem, hsame, hne, hsome, hshared⟩
    obtain ⟨identity, hidentity⟩ := Option.isSome_iff_exists.1 hsome
    have hid := (mem_members_groupsOf occurrences identity id).2
      ⟨occurrence, hmem, hsame, hidentity⟩
    have hother := (mem_members_groupsOf occurrences identity other.id).2
      ⟨other, homem, rfl, hshared.trans hidentity⟩
    have hnodup := nodup_members_groupsOf library options occurrences identity
    exact ⟨_, mem_entries_of_mem_members hid,
      (one_lt_length_iff hnodup hid).2 ⟨other.id, hother, hne⟩, hid⟩

-- Where a group does not have a resource yet, looking for it makes no difference.
theorem addTo_of_not_mem {groups : Groups} {identity id : Text} (h : id ∉ members groups identity) :
    addTo groups identity id = groups.insert identity (members groups identity ++ [id]) := by
  rw [members] at h ⊢
  simp [addTo, h]

-- An occurrence that says nothing but which resource it cites takes the creators
-- from the library.
theorem identityOf?_bare {resource : Resource} (h : resource ∈ library.resources) :
    identityOf? library options { id := resource.id } = identity? options [] resource := by
  rw [identityOf?, Library.get?_of_mem h, Option.bind_some]

theorem addOccurrence_bare {groups : Groups} {resource : Resource}
    (h : resource ∈ library.resources)
    (hnew : ∀ identity, resource.id ∉ members groups identity) :
    addOccurrence library options groups { id := resource.id } =
      addResource options groups resource := by
  have hidentity : identityOf? library options { id := resource.id } =
      identity? options [] resource := identityOf?_bare h
  cases hresource : identity? options [] resource with
  | none =>
    rw [addOccurrence_of_none (hidentity.trans hresource)]
    simp only [addResource, hresource]
  | some identity =>
    rw [addOccurrence_of_some (hidentity.trans hresource), addTo_of_not_mem (hnew identity)]
    simp only [addResource, hresource, members]

def libraryGroups (library : Library) (options : CitationOptions) : Groups :=
  library.resources.foldl (addResource options) Dict.empty

-- The two groupings keep together from the beginning of the library on: a resource that
-- comes next is none of those before it, so no group has it yet.
theorem groupsOf_bare_of_prefix {before : List Resource} (h : before <+: library.resources) :
    groupsOf library options (before.map fun resource => { id := resource.id }) =
      before.foldl (addResource options) Dict.empty := by
  induction before using List.reverseRecOn with
  | nil => rfl
  | append_singleton before resource ih =>
    have hbefore : before <+: library.resources := (List.prefix_append before [resource]).trans h
    have hmem : resource ∈ library.resources := h.subset (by simp)
    have hdistinct : ((before ++ [resource]).map (·.id)).Nodup :=
      library.distinct.sublist (h.sublist.map _)
    have hnew : ∀ identity, resource.id ∉ members
        (groupsOf library options (before.map fun resource => { id := resource.id })) identity := by
      intro identity hmember
      obtain ⟨occurrence, hoccurrence, hsame, -⟩ := (mem_members_groupsOf _ _ _).1 hmember
      obtain ⟨earlier, hearlier, rfl⟩ := List.mem_map.1 hoccurrence
      rw [List.map_append, List.nodup_append] at hdistinct
      exact hdistinct.2.2 _ (List.mem_map_of_mem hearlier) _ (by simp) hsame
    rw [List.map_append, groupsOf, List.foldl_append, ← groupsOf, List.foldl_append, ← ih hbefore]
    exact addOccurrence_bare hmem hnew

theorem groupsOf_bare (library : Library) (options : CitationOptions) :
    groupsOf library options (library.resources.map fun resource => { id := resource.id }) =
      libraryGroups library options :=
  groupsOf_bare_of_prefix (List.prefix_refl _)

theorem ofOccurrences_bare (library : Library) (options : CitationOptions) :
    ofOccurrences library options (library.resources.map fun resource => { id := resource.id }) =
      ofLibrary library options :=
  congrArg (ofGroups options) (groupsOf_bare library options)

end Referencing.Disambiguation

namespace Referencing.Citation

variable {source : Source}

theorem usesAmbiguous_disambiguation_iff (document : Document) (id : Text) :
    source.usesAmbiguous (source.disambiguation document) id = true ↔
      source.style.citation.ambiguity = .template ∧
        Disambiguation.SharesIdentity source.library source.style.citation document.citations id ∧
        source.compiled.citation.ambiguous.isSome := by
  rw [Source.usesAmbiguous, Bool.and_eq_true, Bool.and_eq_true, decide_eq_true_iff,
    Source.disambiguation, Disambiguation.isAmbiguous_ofOccurrences_iff, and_assoc]

end Referencing.Citation
