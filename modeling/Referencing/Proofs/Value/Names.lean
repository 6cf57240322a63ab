import Referencing.Proofs.Text.LetterCase
import Referencing.Value.Name

namespace Referencing

open Text

def Creator.parts (creator : Creator) : List Text :=
  [creator.surname, creator.particle, creator.given, creator.initials]

namespace Value

-- A text that is there, without white space at its ends. If it begins with a comma, so
-- does one of the parts it was made from.
structure IsMadeOf (parts : List Text) (text : Text) : Prop where
  ne_nil : text ≠ []
  trimmed : IsTrimmed text
  comma : text.head? = some ',' → ∃ part ∈ parts, (trimStart part).head? = some ','

-- A surname as the bundle wants it.
def cased (bundle : Bundle) (surname : Text) : Text :=
  if bundle.uppercase then upper surname else surname

theorem cased_nil (bundle : Bundle) : cased bundle [] = [] := by
  unfold cased
  cases bundle.uppercase <;> rfl

section Making

variable {parts others : List Text} {text left right : Text}

theorem IsMadeOf.mono (h : IsMadeOf parts text) (hparts : parts ⊆ others) :
    IsMadeOf others text where
  ne_nil := h.ne_nil
  trimmed := h.trimmed
  comma := fun hhead =>
    let ⟨part, hpart, hcomma⟩ := h.comma hhead
    ⟨part, hparts hpart, hcomma⟩

theorem IsMadeOf.append (hleft : IsMadeOf parts left) (hright : IsMadeOf others right)
    (middle : Text) : IsMadeOf parts (left ++ middle ++ right) where
  ne_nil := by simp [hleft.ne_nil]
  trimmed := hleft.trimmed.append hright.trimmed hleft.ne_nil hright.ne_nil middle
  comma := by
    rw [List.append_assoc, List.head?_append_of_ne_nil _ hleft.ne_nil]
    exact hleft.comma

-- The first piece decides what the whole begins with.
theorem IsMadeOf.join (separator : Text) {first : Text} {rest : List Text}
    (hfirst : IsMadeOf parts first) (hrest : ∀ piece ∈ rest, piece ≠ [] ∧ IsTrimmed piece) :
    IsMadeOf parts (join separator (first :: rest)) := by
  have hne : ∀ piece ∈ first :: rest, piece ≠ [] :=
    List.forall_mem_cons.2 ⟨hfirst.ne_nil, fun piece hpiece => (hrest piece hpiece).1⟩
  have htrimmed : ∀ piece ∈ first :: rest, IsTrimmed piece :=
    List.forall_mem_cons.2 ⟨hfirst.trimmed, fun piece hpiece => (hrest piece hpiece).2⟩
  refine ⟨?_, isTrimmed_join separator hne htrimmed, ?_⟩
  · rw [Ne, join_eq_nil_iff separator hne]
    exact List.cons_ne_nil first rest
  · rw [head?_join separator rest hfirst.ne_nil]
    exact hfirst.comma

theorem IsMadeOf.cased (h : IsMadeOf parts text) (bundle : Bundle) :
    IsMadeOf parts (cased bundle text) := by
  unfold Value.cased
  cases bundle.uppercase with
  | false => exact h
  | true =>
    refine ⟨by simpa [upper_eq_nil_iff] using h.ne_nil, h.trimmed.upper, fun hhead => ?_⟩
    obtain ⟨c, hc, hcomma⟩ := mem_upperOf_of_head?_upper hhead
    rw [eq_of_mark_mem_upperOf (by simp) hcomma] at hc
    exact h.comma hc

theorem isMadeOf_trim {part : Text} (hpart : part ∈ parts) (h : isBlankText part = false) :
    IsMadeOf parts (trim part) where
  ne_nil := by
    rw [Ne, trim_eq_nil_iff, h]
    exact Bool.false_ne_true
  trimmed := isTrimmed_trim part
  comma := fun hhead => ⟨part, hpart, (head?_trim part).symm.trans hhead⟩

theorem isMadeOf_self (hne : text ≠ []) (h : IsTrimmed text) : IsMadeOf [text] text where
  ne_nil := hne
  trimmed := h
  comma := by
    intro hhead
    obtain ⟨rest, rfl⟩ := List.head?_eq_some_iff.1 hhead
    exact ⟨_, List.mem_singleton_self _, rfl⟩

theorem isMadeOf_word {first : Text} {rest : List Text} (h : words text = first :: rest) :
    IsMadeOf [text] first := by
  obtain ⟨hne, htrimmed⟩ := mem_words (h ▸ List.mem_cons_self)
  refine ⟨hne, htrimmed, fun hhead => ⟨text, List.mem_singleton_self _, ?_⟩⟩
  rw [← head?_words, h]
  exact hhead

end Making

section Initials

-- Letters that a name may begin with.
def IsLettered (group : InitialGroup) : Prop :=
  group ≠ [] ∧ ∀ letter ∈ group, isBlank letter = false ∧ letter ≠ ','

theorem letter_of_mem_upperOf {c letter : Char} (hc : isAlphabetic c) (h : letter ∈ upperOf c) :
    isBlank letter = false ∧ letter ≠ ',' := by
  refine ⟨not_blank_of_mem_upperOf h (not_blank_of_isAlphabetic hc), ?_⟩
  rintro rfl
  rw [eq_of_mark_mem_upperOf (by simp) h] at hc
  exact absurd hc (by decide)

theorem isLettered_of_mem_groupsOfGiven {given : Text} {group : InitialGroup}
    (h : group ∈ groupsOfGiven given) : IsLettered group := by
  obtain ⟨hgroup, hne⟩ := List.mem_filter.1 h
  obtain ⟨word, -, rfl⟩ := List.mem_map.1 hgroup
  refine ⟨by simpa using hne, fun letter hletter => ?_⟩
  obtain ⟨c, hc, hletter⟩ := List.mem_flatMap.1 hletter
  obtain ⟨part, -, hfind⟩ := List.mem_filterMap.1 hc
  exact letter_of_mem_upperOf (List.find?_some hfind) hletter

theorem isLettered_of_mem_groupsOfInitials {initials : Text} {group : InitialGroup}
    (h : group ∈ groupsOfInitials initials) : IsLettered group := by
  obtain ⟨c, hc, rfl⟩ := List.mem_map.1 h
  exact ⟨upperOf_ne_nil c, fun letter => letter_of_mem_upperOf (List.mem_filter.1 hc).2⟩

theorem IsLettered.isMadeOf_join {group : InitialGroup} (h : IsLettered group) {after : Text}
    (hafter : ∀ c ∈ after, isBlank c = false) :
    IsMadeOf [] (join ['-'] (group.map fun letter => letter :: after)) := by
  have hpiece : ∀ letter ∈ group, IsMadeOf [] (letter :: after) := by
    intro letter hletter
    obtain ⟨hblank, hcomma⟩ := h.2 letter hletter
    refine ⟨List.cons_ne_nil _ _, isTrimmed_of_not_blank ?_, fun hhead => ?_⟩
    · exact List.forall_mem_cons.2 ⟨hblank, hafter⟩
    · exact absurd (Option.some.inj hhead) hcomma
  obtain ⟨hne, -⟩ := h
  obtain ⟨letter, rest, rfl⟩ := List.exists_cons_of_ne_nil hne
  rw [List.map_cons]
  refine (hpiece letter List.mem_cons_self).join _ fun piece hmem => ?_
  obtain ⟨other, hother, rfl⟩ := List.mem_map.1 hmem
  have hmade := hpiece other (List.mem_cons_of_mem _ hother)
  exact ⟨hmade.ne_nil, hmade.trimmed⟩

theorem not_blank_of_mem_initialMarks (form : InitialsForm) :
    ∀ c ∈ (initialMarks form).1, isBlank c = false := by
  have hstop : isBlank '.' = false := by decide
  cases form <;> simp [initialMarks, hstop]

theorem layoutInitials_eq (form : InitialsForm) (groups : List InitialGroup) :
    layoutInitials form groups = join (initialMarks form).2 (groups.map fun group =>
      join ['-'] (group.map fun letter => letter :: (initialMarks form).1)) :=
  rfl

theorem isMadeOf_layoutInitials (form : InitialsForm) {groups : List InitialGroup}
    (hne : groups ≠ []) (h : ∀ group ∈ groups, IsLettered group) :
    IsMadeOf [] (layoutInitials form groups) := by
  have hmade : ∀ group ∈ groups, IsMadeOf []
      (join ['-'] (group.map fun letter => letter :: (initialMarks form).1)) :=
    fun group hgroup => (h group hgroup).isMadeOf_join (not_blank_of_mem_initialMarks form)
  obtain ⟨first, rest, rfl⟩ := List.exists_cons_of_ne_nil hne
  rw [layoutInitials_eq, List.map_cons]
  refine (hmade first List.mem_cons_self).join _ fun piece hpiece => ?_
  obtain ⟨group, hgroup, rfl⟩ := List.mem_map.1 hpiece
  have hpiece := hmade group (List.mem_cons_of_mem _ hgroup)
  exact ⟨hpiece.ne_nil, hpiece.trimmed⟩

theorem layoutInitials_cases (form : InitialsForm) {groups : List InitialGroup}
    (h : ∀ group ∈ groups, IsLettered group) :
    layoutInitials form groups = [] ∨ IsMadeOf [] (layoutInitials form groups) := by
  by_cases hne : groups = []
  · subst hne
    exact .inl rfl
  · exact .inr (isMadeOf_layoutInitials form hne h)

end Initials

section Parts

variable (bundle : Bundle) (creator : Creator)

theorem givenNames_cases : givenNames bundle creator = [] ∨
    IsMadeOf [creator.given, creator.initials] (givenNames bundle creator) := by
  have hextra := fun (group : InitialGroup) (hgroup : group ∈ groupsOfInitials creator.initials) =>
    isLettered_of_mem_groupsOfInitials hgroup
  unfold givenNames
  cases bundle.given with
  | full =>
    have hinitials := layoutInitials_cases bundle.initials hextra
    by_cases hgiven : trim creator.given = []
    · simp only [hgiven, if_true]
      exact hinitials.imp_right fun hmade => hmade.mono (List.nil_subset _)
    · have hblank : isBlankText creator.given = false := by
        rwa [trim_eq_nil_iff, Bool.not_eq_true] at hgiven
      have hmade : IsMadeOf [creator.given, creator.initials] (trim creator.given) :=
        isMadeOf_trim (by simp) hblank
      simp only [hgiven, if_false]
      rcases hinitials with hnil | hinitials
      · simp only [hnil, if_true]
        exact .inr hmade
      · rw [if_neg hinitials.ne_nil]
        have happend := hmade.append hinitials [' ']
        rw [List.append_assoc] at happend
        exact .inr happend
  | initial =>
    refine (layoutInitials_cases bundle.initials ?_).imp_right fun hmade =>
      hmade.mono (List.nil_subset _)
    intro group hgroup
    rcases List.mem_append.1 hgroup with hgroup | hgroup
    · exact isLettered_of_mem_groupsOfGiven hgroup
    · exact hextra group hgroup

theorem familyName_of_particle (h : isBlankText creator.particle = false) :
    familyName bundle creator =
      trim creator.particle ++ [' '] ++ cased bundle (trim creator.surname) := by
  have hne : trim creator.particle ≠ [] := by simp [trim_eq_nil_iff, h]
  rw [familyName, splitParticle, if_pos hne, List.append_assoc]
  rfl

-- Without a particle of its own a surname may be cut between two of its words.
theorem exists_familyName (h : isBlankText creator.particle) :
    ∃ particles rest, words creator.surname = particles ++ rest ∧
      (words creator.surname ≠ [] → rest ≠ []) ∧
      familyName bundle creator =
        if particles = [] then cased bundle (join [' '] rest)
        else join [' '] particles ++ [' '] ++ cased bundle (join [' '] rest) := by
  let particles :=
    (words creator.surname).dropLast.takeWhile fun word => word.head?.any isLowercase
  have hprefix : particles <+: words creator.surname :=
    (List.takeWhile_prefix _).trans (List.dropLast_prefix _)
  refine ⟨particles, (words creator.surname).drop particles.length,
    (List.prefix_iff_eq_append.1 hprefix).symm, fun hne => ?_, ?_⟩
  · have hlength : particles.length ≤ (words creator.surname).dropLast.length :=
      (List.takeWhile_prefix _).length_le
    have hpos := List.length_pos_iff.2 hne
    rw [List.length_dropLast] at hlength
    rw [Ne, List.drop_eq_nil_iff]
    omega
  · have hsplit : splitParticle creator =
        (if particles = [] then none else some (join [' '] particles),
          join [' '] ((words creator.surname).drop particles.length)) := by
      rw [splitParticle, if_neg (by simp [trim_eq_nil_iff, h])]
    rw [familyName, hsplit]
    by_cases hparticles : particles = []
    · rw [if_pos hparticles, if_pos hparticles]
      rfl
    · rw [if_neg hparticles, if_neg hparticles, List.append_assoc]
      rfl

theorem isMadeOf_familyName (h : isBlankText creator.surname = false) :
    IsMadeOf [creator.surname, creator.particle] (familyName bundle creator) := by
  have hsurname : [creator.surname] ⊆ [creator.surname, creator.particle] := by simp
  by_cases hparticle : isBlankText creator.particle
  · obtain ⟨particles, rest, hwords, hrest, hfamily⟩ := exists_familyName bundle creator hparticle
    have hsolid : ∀ word ∈ particles ++ rest, word ≠ [] ∧ IsTrimmed word :=
      fun word hword => mem_words (hwords ▸ hword)
    have hne : words creator.surname ≠ [] := by simp [words_eq_nil_iff, h]
    obtain ⟨last, others, rfl⟩ := List.exists_cons_of_ne_nil (hrest hne)
    have hothers : ∀ word ∈ others, word ≠ [] ∧ IsTrimmed word :=
      fun word hword => hsolid word (by simp [hword])
    rw [hfamily]
    cases particles with
    | nil => exact (((isMadeOf_word hwords).mono hsurname).join _ hothers).cased bundle
    | cons first particles =>
      have hlast := hsolid last (by simp)
      have hleft : IsMadeOf [creator.surname, creator.particle] (join [' '] (first :: particles)) :=
        ((isMadeOf_word hwords).mono hsurname).join _ fun word hword => hsolid word (by simp [hword])
      have hright := ((isMadeOf_self hlast.1 hlast.2).join [' '] hothers).cased bundle
      exact hleft.append hright [' ']
  · rw [Bool.not_eq_true] at hparticle
    have hleft : IsMadeOf [creator.surname, creator.particle] (trim creator.particle) :=
      isMadeOf_trim (by simp) hparticle
    have hright := (isMadeOf_trim (List.mem_singleton_self creator.surname) h).cased bundle
    rw [familyName_of_particle bundle creator hparticle]
    exact hleft.append hright [' ']

-- A particle without a surname is followed by a blank all the same.
theorem familyName_of_blank (h : isBlankText creator.surname) :
    familyName bundle creator =
      if isBlankText creator.particle then [] else trim creator.particle ++ [' '] := by
  by_cases hparticle : isBlankText creator.particle
  · obtain ⟨particles, rest, hwords, -, hfamily⟩ := exists_familyName bundle creator hparticle
    rw [words_eq_nil_iff.2 h, eq_comm, List.append_eq_nil_iff] at hwords
    obtain ⟨rfl, rfl⟩ := hwords
    rw [hfamily, if_pos hparticle]
    exact cased_nil bundle
  · rw [familyName_of_particle bundle creator (Bool.eq_false_iff.2 hparticle), if_neg hparticle,
      trim_eq_nil_iff.2 h, cased_nil, List.append_nil]

-- A surname that is printed as it is keeps its words, particle or not.
theorem familyName_of_plain (h : isBlankText creator.particle) (hplain : bundle.uppercase = false) :
    familyName bundle creator = join [' '] (words creator.surname) := by
  have hcased : ∀ surname, cased bundle surname = surname := by simp [cased, hplain]
  obtain ⟨particles, rest, hwords, hrest, hfamily⟩ := exists_familyName bundle creator h
  rw [hfamily, hcased, hwords]
  by_cases hparticles : particles = []
  · simp [hparticles]
  · have hne : rest ≠ [] := hrest (by simp [hwords, hparticles])
    rw [if_neg hparticles, join_append _ hparticles hne]

end Parts

section Neat

-- A name without stray punctuation. It is empty only if all its parts are.
structure IsNeat (bundle : Bundle) (creator : Creator) (text : Text) : Prop where
  trimmed : IsTrimmed text
  comma : text.head? = some ',' → ∃ part ∈ creator.parts, (trimStart part).head? = some ','
  named : text = [] →
    isBlankText creator.surname ∧ isBlankText creator.particle ∧ givenNames bundle creator = []

-- Where nothing goes wrong without a surname: nothing is printed, or a particle comes first
-- and given names come last. A comma of the layout is not told from one of the name itself.
def FitsWithoutSurname (bundle : Bundle) (order : NameOrder) (creator : Creator) : Prop :=
  if isBlankText creator.particle then
    givenNames bundle creator = [] ∨
      order = .lastCommaFirst ∧
        ∃ part ∈ [creator.given, creator.initials], (trimStart part).head? = some ','
  else givenNames bundle creator ≠ [] ∧ (order = .lastCommaFirst ∨ order = .lastFirst)

variable {bundle : Bundle} {creator : Creator} (order : NameOrder)

theorem IsMadeOf.isNeat {text : Text} (h : IsMadeOf creator.parts text) :
    IsNeat bundle creator text where
  trimmed := h.trimmed
  comma := h.comma
  named := fun hempty => absurd hempty h.ne_nil

theorem layoutName_of_no_given (h : givenNames bundle creator = []) :
    layoutName bundle order creator = familyName bundle creator := by
  simp only [layoutName, h, if_true]

theorem layoutName_of_given (h : givenNames bundle creator ≠ []) :
    layoutName bundle order creator =
      match order with
      | .firstLast => givenNames bundle creator ++ [' '] ++ familyName bundle creator
      | .lastCommaFirst => familyName bundle creator ++ [',', ' '] ++ givenNames bundle creator
      | .lastFirst => familyName bundle creator ++ [' '] ++ givenNames bundle creator
      | .lastOnly => familyName bundle creator := by
  simp only [layoutName, h, if_false]
  cases order <;> simp

theorem isMadeOf_layoutName (h : isBlankText creator.surname = false) :
    IsMadeOf creator.parts (layoutName bundle order creator) := by
  have hfamily : IsMadeOf creator.parts (familyName bundle creator) :=
    (isMadeOf_familyName bundle creator h).mono (by simp [Creator.parts])
  rcases givenNames_cases bundle creator with hnone | hgiven
  · rw [layoutName_of_no_given order hnone]
    exact hfamily
  · have hfirst : IsMadeOf creator.parts (givenNames bundle creator) :=
      hgiven.mono (by simp [Creator.parts])
    rw [layoutName_of_given order hgiven.ne_nil]
    cases order with
    | firstLast => exact hfirst.append hfamily _
    | lastCommaFirst => exact hfamily.append hfirst _
    | lastFirst => exact hfamily.append hfirst _
    | lastOnly => exact hfamily

theorem not_isNeat_of_last_blank (text : Text) : ¬IsNeat bundle creator (text ++ [' ']) := by
  intro h
  exact absurd (h.trimmed.last ' ' (by simp)) (by decide)

-- With nothing but given names the layout shows what it puts between them and a surname.
theorem isNeat_of_given_alone_iff (hsurname : isBlankText creator.surname)
    (hparticle : isBlankText creator.particle) (hgiven : givenNames bundle creator ≠ []) :
    IsNeat bundle creator (layoutName bundle order creator) ↔
      order = .lastCommaFirst ∧
        ∃ part ∈ [creator.given, creator.initials], (trimStart part).head? = some ',' := by
  have hfamily : familyName bundle creator = [] := by
    rw [familyName_of_blank bundle creator hsurname, if_pos hparticle]
  have hmade := (givenNames_cases bundle creator).resolve_left hgiven
  rw [layoutName_of_given order hgiven, hfamily]
  cases order with
  | firstLast => simpa using not_isNeat_of_last_blank (givenNames bundle creator)
  | lastCommaFirst =>
    have hempty : ∀ part, isBlankText part → (trimStart part).head? ≠ some ',' := by
      intro part hpart
      simp [trimStart_eq_nil_iff.2 hpart]
    constructor
    · intro h
      obtain ⟨part, hpart, hcomma⟩ := h.comma rfl
      refine ⟨rfl, part, ?_, hcomma⟩
      simp only [Creator.parts, List.mem_cons, List.not_mem_nil, or_false] at hpart ⊢
      rcases hpart with rfl | rfl | hpart
      · exact absurd hcomma (hempty _ hsurname)
      · exact absurd hcomma (hempty _ hparticle)
      · exact hpart
    · rintro ⟨-, part, hpart, hcomma⟩
      have hblank : isBlank ',' = false := by decide
      have hcommaTrimmed : IsTrimmed [','] := isTrimmed_of_not_blank (by simp [hblank])
      refine ⟨?_, fun _ => ⟨part, ?_, hcomma⟩, fun hnil => by simp at hnil⟩
      · exact hcommaTrimmed.append hmade.trimmed (by simp) hgiven [' ']
      · simp only [Creator.parts, List.mem_cons] at hpart ⊢
        exact .inr (.inr hpart)
  | lastFirst =>
    have hlead : ¬IsNeat bundle creator ([] ++ [' '] ++ givenNames bundle creator) := by
      intro h
      exact absurd (h.trimmed.first ' ' rfl) (by decide)
    simpa using hlead
  | lastOnly =>
    have hlost : ¬IsNeat bundle creator [] := fun h => hgiven (h.named rfl).2.2
    simpa using hlost

theorem isNeat_of_particle_iff (hsurname : isBlankText creator.surname)
    (hparticle : isBlankText creator.particle = false) :
    IsNeat bundle creator (layoutName bundle order creator) ↔
      givenNames bundle creator ≠ [] ∧ (order = .lastCommaFirst ∨ order = .lastFirst) := by
  have hfamily : familyName bundle creator = trim creator.particle ++ [' '] := by
    rw [familyName_of_blank bundle creator hsurname, if_neg (by simp [hparticle])]
  have hfirst : IsMadeOf creator.parts (trim creator.particle) :=
    isMadeOf_trim (by simp [Creator.parts]) hparticle
  have hblank : ∀ text, ¬IsNeat bundle creator (text ++ [' ']) := not_isNeat_of_last_blank
  rcases givenNames_cases bundle creator with hnone | hgiven
  · rw [layoutName_of_no_given order hnone, hfamily]
    simpa [hnone] using hblank _
  · rw [layoutName_of_given order hgiven.ne_nil, hfamily]
    cases order with
    | firstLast => simpa [hgiven.ne_nil] using hblank (givenNames bundle creator ++ [' '] ++ _)
    | lastCommaFirst =>
      have hneat : IsNeat bundle creator _ := (hfirst.append hgiven [' ', ',', ' ']).isNeat
      simpa [hgiven.ne_nil] using hneat
    | lastFirst =>
      have hneat : IsNeat bundle creator _ := (hfirst.append hgiven [' ', ' ']).isNeat
      simpa [hgiven.ne_nil] using hneat
    | lastOnly => simpa [hgiven.ne_nil] using hblank _

-- A name with a surname is laid out neatly in every order, and as it is if there is
-- nothing else. Without a surname the space or comma beside it is printed all the same,
-- and given names are lost where the surname alone is wanted.
theorem isNeat_layoutName_iff (bundle : Bundle) (order : NameOrder) (creator : Creator) :
    (IsNeat bundle creator (layoutName bundle order creator) ↔
      isBlankText creator.surname = false ∨ FitsWithoutSurname bundle order creator) ∧
    (isBlankText creator.particle → givenNames bundle creator = [] → bundle.uppercase = false →
      layoutName bundle order creator = join [' '] (words creator.surname)) := by
  constructor
  · by_cases hsurname : isBlankText creator.surname
    · rw [FitsWithoutSurname, hsurname]
      by_cases hparticle : isBlankText creator.particle
      · rw [if_pos hparticle]
        by_cases hgiven : givenNames bundle creator = []
        · have hnone : layoutName bundle order creator = [] := by
            rw [layoutName_of_no_given order hgiven, familyName_of_blank bundle creator hsurname,
              if_pos hparticle]
          have hneat : IsNeat bundle creator [] :=
            ⟨isTrimmed_of_not_blank (by simp), by simp, fun _ => ⟨hsurname, hparticle, hgiven⟩⟩
          simp [hnone, hgiven, hneat]
        · simpa [hgiven] using isNeat_of_given_alone_iff order hsurname hparticle hgiven
      · rw [if_neg hparticle]
        simpa using isNeat_of_particle_iff order hsurname (Bool.eq_false_iff.2 hparticle)
    · rw [Bool.not_eq_true] at hsurname
      have hneat : IsNeat bundle creator (layoutName bundle order creator) :=
        (isMadeOf_layoutName order hsurname).isNeat
      simp [hsurname, hneat]
  · intro hparticle hgiven hplain
    rw [layoutName_of_no_given order hgiven, familyName_of_plain bundle creator hparticle hplain]

-- One name entered as a given name: it begins with a comma that is not its own, or with a
-- space, or ends with one, or is not printed.
theorem not_isNeat_of_plato :
    let creator : Creator := { given := "Plato".toList }
    layoutName {} .lastCommaFirst creator = ", Plato".toList ∧
      ∀ order, ¬IsNeat {} creator (layoutName {} order creator) := by
  intro creator
  refine ⟨by decide, fun order hneat => ?_⟩
  have hgiven : givenNames {} creator ≠ [] := by decide
  obtain ⟨-, part, hpart, hcomma⟩ :=
    (isNeat_of_given_alone_iff order (by decide) (by decide) hgiven).1 hneat
  have hnone : ∀ part ∈ [creator.given, creator.initials],
      (trimStart part).head? ≠ some ',' := by decide
  exact hnone part hpart hcomma

end Neat

end Value

end Referencing
