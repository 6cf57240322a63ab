import Referencing.Proofs.Citation.Mentions
import Referencing.Proofs.Text.LetterCase

namespace Referencing.Citation

open Text

-- A name in a sentence with white space, or an end of the sentence, on each side.
structure StandsApart (name sentence before after : Text) : Prop where
  cuts : before ++ name ++ after = sentence
  left : before.getLast?.all isBlank
  right : after.head?.all isBlank

-- A name in a sentence where a word begins or ends on each side.
structure StandsAsWord (name sentence before after : Text) : Prop where
  cuts : before ++ name ++ after = sentence
  left : isWordBoundary before.getLast? name.head?
  right : isWordBoundary name.getLast? after.head?

def HasWordEnds (name : Text) : Prop :=
  name.head?.any isWordCharacter ∧ name.getLast?.any isWordCharacter

instance (name : Text) : Decidable (HasWordEnds name) :=
  inferInstanceAs (Decidable (_ ∧ _))

-- How many characters there are up to the end of a mention.
def Mention.stop (mention : Mention) : Nat :=
  mention.before.length + mention.text.length

-- A place in bytes that cuts no character.
def IsBetweenCharacters (text : Text) (place : Nat) : Prop :=
  ∃ before, before <+: text ∧ size before = place

-- The search for a name finds something if the name stands anywhere. What it finds is a part of
-- the sentence, begins with the name, and is not followed by the name.
structure FindsLast (name sentence : Text) (stands : Text → Text → Prop)
    (found : Option Mention) : Prop where
  isSome : ∀ before after, stands before after → found.isSome
  cuts : ∀ mention ∈ found, mention.Cuts name sentence
  start : ∀ mention ∈ found, IsBetweenCharacters sentence (size mention.before)
  stop : ∀ mention ∈ found,
    IsBetweenCharacters sentence (size mention.before + size mention.text)
  last : ∀ mention ∈ found, ∀ before after, stands before after → before.length < mention.stop

variable {name sentence : Text}

section Places

variable {before after : Text}

theorem any_word_of_blank {neighbour : Option Char} (h : neighbour.all isBlank) :
    neighbour.any isWordCharacter = false := by
  cases neighbour with
  | none => rfl
  | some c => exact not_word_of_isBlank h

-- Next to white space a word begins or ends only where the name has a word character.
theorem StandsApart.standsAsWord_iff (h : StandsApart name sentence before after) :
    StandsAsWord name sentence before after ↔ HasWordEnds name := by
  have hleft : isWordBoundary before.getLast? name.head? = name.head?.any isWordCharacter := by
    rw [isWordBoundary, any_word_of_blank h.left, Bool.false_bne]
  have hright : isWordBoundary name.getLast? after.head? = name.getLast?.any isWordCharacter := by
    rw [isWordBoundary, any_word_of_blank h.right, Bool.bne_false]
  constructor
  · exact fun hword => ⟨hleft ▸ hword.left, hright ▸ hword.right⟩
  · exact fun hends => ⟨h.cuts, hleft ▸ hends.1, hright ▸ hends.2⟩

theorem StandsAsWord.length_lt (h : StandsAsWord name sentence before after) (hname : name ≠ []) :
    before.length < sentence.length := by
  have hpos := List.length_pos_iff.2 hname
  rw [← h.cuts, List.length_append, List.length_append]
  omega

-- A mention begins wherever the name stands as a word, and nowhere else.
theorem isSome_mentionAt_iff {text : Text} :
    (mentionAt name before text).isSome ↔
      ∃ after, StandsAsWord name (before ++ text) before after := by
  constructor
  · intro h
    simp only [mentionAt] at h
    split at h
    · next hname =>
      simp only [Bool.and_eq_true, List.isPrefixOf_iff_prefix] at hname
      obtain ⟨⟨hstarts, hleft⟩, hright⟩ := hname
      refine ⟨text.drop name.length, ?_, hleft, hright⟩
      rw [List.append_assoc, List.prefix_iff_eq_append.1 hstarts]
    · simp at h
  · rintro ⟨after, hcuts, hleft, hright⟩
    rw [List.append_assoc, List.append_cancel_left_eq] at hcuts
    subst hcuts
    simp [mentionAt, hleft, hright]

theorem Mention.IsAt.standsAsWord {mention : Mention} (h : mention.IsAt name sentence) :
    ∃ after, StandsAsWord name sentence mention.before after := by
  have hsentence := h.cuts
  rw [List.append_assoc] at hsentence
  rw [← hsentence]
  exact isSome_mentionAt_iff.1 (by rw [h.found]; rfl)

end Places

section Search

-- Every place before a bound where the name stands as a word begins before the end of what was
-- found.
def Covers (name sentence : Text) (bound : Nat) (found : Option Mention) : Prop :=
  ∀ before after, StandsAsWord name sentence before after → before.length < bound →
    ∃ mention ∈ found, before.length < mention.stop

theorem covers_of_mentionAt {before text mention : Text}
    (h : mentionAt name before text = some mention) (hname : name ≠ []) (after : Text) :
    Covers name sentence (before.length + 1 + (mention.length - 1))
      (some ⟨before, mention, after⟩) := by
  have hpos : 0 < mention.length :=
    List.length_pos_iff.2 fun hnil =>
      hname (List.prefix_nil.1 (hnil ▸ (isPrefix_of_mentionAt h).1))
  intro place _ _ hlt
  refine ⟨_, rfl, ?_⟩
  simp only [Mention.stop]
  omega

-- A place that is no mention leaves the bound to move on by one.
theorem Covers.succ {before text : Text} {found : Option Mention}
    (h : Covers name (before ++ text) before.length found)
    (hnone : mentionAt name before text = none) :
    Covers name (before ++ text) (before.length + 1) found := by
  intro place after hplace hlt
  rcases Nat.lt_succ_iff_lt_or_eq.1 hlt with hless | hsame
  · exact h place after hplace hless
  · have hcuts := hplace.cuts
    rw [List.append_assoc] at hcuts
    have hbefore : place = before := List.append_inj_left hcuts hsame
    subst hbefore
    have hsome := isSome_mentionAt_iff.2 ⟨after, hplace⟩
    rw [hnone] at hsome
    contradiction

-- The search keeps up with the bound: what it has gone through, and the characters that it still
-- has to skip, are covered.
theorem covers_lastMentionFrom {before : Text} {skip : Nat} {found : Option Mention} {text : Text}
    (hname : name ≠ []) (h : Covers name (before ++ text) (before.length + skip) found) :
    Covers name (before ++ text) (before ++ text).length
      (lastMentionFrom name before skip found text) := by
  induction text generalizing before skip found with
  | nil =>
    intro place after hplace hlt
    refine h place after hplace ?_
    rw [List.append_nil] at hlt
    omega
  | cons c rest ih =>
    have hsplit : before ++ c :: rest = before ++ [c] ++ rest := by simp
    have hlength : (before ++ [c]).length = before.length + 1 := by simp
    rw [hsplit] at h ⊢
    cases skip with
    | succ skip =>
      refine ih ?_
      rw [hlength, Nat.add_assoc, Nat.add_comm 1]
      exact h
    | zero =>
      simp only [lastMentionFrom]
      split
      · next mention hmention =>
        refine ih ?_
        rw [hlength]
        exact covers_of_mentionAt hmention hname _
      · next hnone =>
        refine ih ?_
        rw [hlength, ← hsplit]
        exact Covers.succ (hsplit ▸ h) hnone

theorem covers_findMention {surname : Text} (h : trim surname ≠ []) :
    Covers (trim surname) sentence sentence.length (findMention sentence surname) := by
  have hnone : Covers (trim surname) ([] ++ sentence) (([] : Text).length + 0) none := by
    intro place after hplace hlt
    simp at hlt
  rw [findMention, if_neg h]
  exact covers_lastMentionFrom h hnone

-- As words the name is always found.
theorem findsLast_words {surname : Text} (h : trim surname ≠ []) (sentence : Text) :
    FindsLast (trim surname) sentence (StandsAsWord (trim surname) sentence)
      (findMention sentence surname) := by
  have hplaces : ∀ before after, StandsAsWord (trim surname) sentence before after →
      ∃ mention ∈ findMention sentence surname, before.length < mention.stop :=
    fun before after hplace => covers_findMention h before after hplace (hplace.length_lt h)
  refine ⟨?_, ?_, ?_, ?_, ?_⟩
  · intro before after hplace
    obtain ⟨mention, hmention, -⟩ := hplaces before after hplace
    exact Option.isSome_of_mem hmention
  · exact fun mention hmention => (cuts_of_findMention hmention).2
  · intro mention hmention
    refine ⟨mention.before, ?_, rfl⟩
    rw [← (cuts_of_findMention hmention).2.1, List.append_assoc]
    exact List.prefix_append _ _
  · intro mention hmention
    refine ⟨mention.before ++ mention.text, ?_, size_append _ _⟩
    rw [← (cuts_of_findMention hmention).2.1]
    exact List.prefix_append _ _
  · intro mention hmention before after hplace
    obtain ⟨other, hother, hlt⟩ := hplaces before after hplace
    rw [Option.mem_unique hmention hother]
    exact hlt

theorem FindsLast.mono {stands stands' : Text → Text → Prop} {found : Option Mention}
    (h : FindsLast name sentence stands found)
    (himp : ∀ before after, stands' before after → stands before after) :
    FindsLast name sentence stands' found where
  isSome := fun before after hplace => h.isSome before after (himp before after hplace)
  cuts := h.cuts
  start := h.start
  stop := h.stop
  last := fun mention hmention before after hplace =>
    h.last mention hmention before after (himp before after hplace)

end Search

-- A name is found wherever it stands as a whole word, and only there. So between white space it is
-- found in every sentence exactly if it begins and ends with a character of a word: a name that
-- ends in a full stop is not even found where it stands alone.
theorem findsLast_findMention_iff {surname : Text} (h : trim surname ≠ []) :
    (∀ sentence, FindsLast (trim surname) sentence (StandsAsWord (trim surname) sentence)
        (findMention sentence surname) ∧
      ∀ mention ∈ findMention sentence surname,
        ∃ after, StandsAsWord (trim surname) sentence mention.before after) ∧
    ((∀ sentence, FindsLast (trim surname) sentence (StandsApart (trim surname) sentence)
        (findMention sentence surname)) ↔ HasWordEnds (trim surname)) := by
  refine ⟨fun sentence => ⟨findsLast_words h sentence, ?_⟩, ?_, ?_⟩
  · exact fun mention hmention => (isAt_of_findMention hmention).2.standsAsWord
  · intro hfinds
    have halone : StandsApart (trim surname) (trim surname) [] [] := ⟨by simp, by simp, by simp⟩
    obtain ⟨mention, hmention⟩ :=
      Option.isSome_iff_exists.1 ((hfinds (trim surname)).isSome [] [] halone)
    obtain ⟨after, hplace⟩ := (isAt_of_findMention hmention).2.standsAsWord
    -- The name has no other place in itself.
    have hlength := congrArg List.length hplace.cuts
    simp only [List.length_append] at hlength
    have hbefore : mention.before = [] := List.eq_nil_of_length_eq_zero (by omega)
    have hafter : after = [] := List.eq_nil_of_length_eq_zero (by omega)
    rw [hbefore, hafter] at hplace
    exact halone.standsAsWord_iff.1 hplace
  · intro hends sentence
    exact (findsLast_words h sentence).mono fun before after hplace =>
      hplace.standsAsWord_iff.2 hends

-- An apostrophe inside a name does no harm.
theorem findsLast_of_apostrophe :
    let surname := " O\x27Neil ".toList
    let sentence := "So O\x27Neil et al. say ".toList
    trim surname ≠ [] ∧ HasWordEnds (trim surname) ∧
      findMention sentence surname =
        some ⟨"So ".toList, "O\x27Neil et al.".toList, " say ".toList⟩ ∧
      FindsLast (trim surname) sentence (StandsApart (trim surname) sentence)
        (findMention sentence surname) := by
  intro surname sentence
  have hname : trim surname ≠ [] := by decide
  have hends : HasWordEnds (trim surname) := by decide +kernel
  have hfound : findMention sentence surname =
      some ⟨"So ".toList, "O\x27Neil et al.".toList, " say ".toList⟩ := by decide +kernel
  exact ⟨hname, hends, hfound, (findsLast_findMention_iff hname).2.2 hends sentence⟩

-- The full stop at the end of a name is followed by white space, and so no word ends there.
theorem not_findsLast_of_full_stop :
    let surname := "King Jr.".toList
    let sentence := "As King Jr. argues ".toList
    StandsApart (trim surname) sentence "As ".toList " argues ".toList ∧
      findMention sentence surname = none ∧
      ¬FindsLast (trim surname) sentence (StandsApart (trim surname) sentence)
        (findMention sentence surname) := by
  intro surname sentence
  have hplace : StandsApart (trim surname) sentence "As ".toList " argues ".toList :=
    ⟨by decide, by decide, by decide⟩
  have hnone : findMention sentence surname = none := by decide +kernel
  refine ⟨hplace, hnone, fun hfinds => ?_⟩
  have hsome := hfinds.isSome _ _ hplace
  rw [hnone] at hsome
  contradiction

end Referencing.Citation
