import Mathlib.Data.List.Induction
import Mathlib.Data.List.Shortlex
import Mathlib.Data.Set.Function
import Mathlib.Logic.Function.Iterate
import Mathlib.Order.Interval.Set.Defs
import Referencing.Citation.Disambiguation

namespace Referencing.Citation

-- What a letter counts: a is one and z is twenty-six.
def digitOf (letter : Char) : Nat :=
  letter.toNat - 'a'.toNat + 1

-- The number that letters spell. Each counts twenty-six times the one after it.
def numberOf (text : Text) : Nat :=
  text.foldl (fun number letter => 26 * number + digitOf letter) 0

-- Letters from a to z, and at least one.
structure IsSpelled (text : Text) : Prop where
  ne_nil : text ≠ []
  lowercase : ∀ c ∈ text, 'a' ≤ c ∧ c ≤ 'z'

-- A way to write the numbers from one on. Every text of letters is the name of the number
-- that it spells, and of no other one.
structure IsNumeration (write : Nat → Option Text) : Prop where
  zero : write 0 = none
  bijective : Set.BijOn write (Set.Ici 1) (some '' {text | IsSpelled text})
  -- If numbers end at a bound, the texts end at what would spell it.
  bounded : ∀ bound, Set.BijOn write (Set.Ico 1 bound)
    (some '' {text | IsSpelled text ∧ numberOf text < bound})
  spelled : ∀ number, ∀ text ∈ write number, numberOf text = number
  ordered : ∀ number other, ∀ text ∈ write number, ∀ later ∈ write other,
    number < other ↔ List.Shortlex (· < ·) text later

section Digits

theorem digitOf_letterOf {digit : Nat} (h : digit < 26) : digitOf (letterOf digit) = digit + 1 := by
  decide +revert

theorem letterOf_mem {digit : Nat} (h : digit < 26) :
    'a' ≤ letterOf digit ∧ letterOf digit ≤ 'z' := by
  decide +revert

theorem letterOf_lt {digit other : Nat} (h : digit < other) (hother : other < 26) :
    letterOf digit < letterOf other := by
  have hall : ∀ other < 26, ∀ digit < other, letterOf digit < letterOf other := by decide
  exact hall other hother digit h

theorem exists_letterOf {c : Char} (h : 'a' ≤ c ∧ c ≤ 'z') :
    ∃ digit < 26, letterOf digit = c := by
  have hfirst : 'a'.toNat ≤ c.toNat := h.1
  have hlast : c.toNat ≤ 'z'.toNat := h.2
  have hz : 'z'.toNat = 'a'.toNat + 25 := by decide
  refine ⟨c.toNat - 'a'.toNat, by omega, ?_⟩
  rw [letterOf, Nat.add_sub_cancel' hfirst, Char.ofNat_toNat]

end Digits

section Numbers

theorem numberOf_concat (text : Text) (letter : Char) :
    numberOf (text ++ [letter]) = 26 * numberOf text + digitOf letter := by
  simp [numberOf]

theorem numberOf_letters (number : Nat) : numberOf (letters number) = number := by
  fun_induction letters number with
  | case1 => rfl
  | case2 n ih =>
    rw [numberOf_concat, ih, digitOf_letterOf (Nat.mod_lt n (by decide))]
    omega

theorem letters_injective {left right : Nat} (h : letters left = letters right) : left = right := by
  rw [← numberOf_letters left, h, numberOf_letters]

theorem letters_concat (number : Nat) {digit : Nat} (h : digit < 26) :
    letters (26 * number + (digit + 1)) = letters number ++ [letterOf digit] := by
  have hquotient : (26 * number + digit) / 26 = number := by omega
  have hremainder : (26 * number + digit) % 26 = digit := by omega
  rw [← Nat.add_assoc, letters, hquotient, hremainder]

theorem exists_eq_concat {number : Nat} (h : 0 < number) :
    ∃ rest digit, rest < number ∧ digit < 26 ∧ number = 26 * rest + (digit + 1) :=
  ⟨(number - 1) / 26, (number - 1) % 26, by omega, by omega, by omega⟩

theorem letters_ne_nil {number : Nat} (h : 0 < number) : letters number ≠ [] := by
  obtain ⟨rest, digit, -, hdigit, rfl⟩ := exists_eq_concat h
  rw [letters_concat rest hdigit]
  exact List.concat_ne_nil _ _

theorem lowercase_letters (number : Nat) : ∀ c ∈ letters number, 'a' ≤ c ∧ c ≤ 'z' := by
  fun_induction letters number with
  | case1 => simp
  | case2 n ih =>
    rw [List.forall_mem_append, List.forall_mem_singleton]
    exact ⟨ih, letterOf_mem (Nat.mod_lt n (by decide))⟩

-- By induction from the last letter, as that is the one a number ends in.
theorem letters_numberOf {text : Text} (h : ∀ c ∈ text, 'a' ≤ c ∧ c ≤ 'z') :
    letters (numberOf text) = text := by
  induction text using List.reverseRecOn with
  | nil => rw [numberOf, List.foldl_nil, letters]
  | append_singleton text c ih =>
    rw [List.forall_mem_append, List.forall_mem_singleton] at h
    obtain ⟨digit, hdigit, rfl⟩ := exists_letterOf h.2
    rw [numberOf_concat, digitOf_letterOf hdigit, letters_concat _ hdigit, ih h.1]

theorem letters?_eq_some_iff {number : Nat} {text : Text} :
    letters? number = some text ↔ IsSpelled text ∧ numberOf text = number := by
  constructor
  · intro h
    have hne : number ≠ 0 := by
      rintro rfl
      contradiction
    rw [letters?, if_neg hne, Option.some.injEq] at h
    subst h
    exact ⟨⟨letters_ne_nil (Nat.pos_of_ne_zero hne), lowercase_letters number⟩,
      numberOf_letters number⟩
  · rintro ⟨⟨hne, hlowercase⟩, rfl⟩
    have hletters := letters_numberOf hlowercase
    have hnumber : numberOf text ≠ 0 := by
      intro hzero
      rw [hzero, letters] at hletters
      exact hne hletters.symm
    rw [letters?, if_neg hnumber, hletters]

end Numbers

section Order

theorem lex_append_of_length_eq {left right : Text} (h : List.Lex (· < ·) left right)
    (hlength : left.length = right.length) (leftEnd rightEnd : Text) :
    List.Lex (· < ·) (left ++ leftEnd) (right ++ rightEnd) := by
  induction h with
  | nil => contradiction
  | rel hlt => exact .rel hlt
  | cons _ ih => exact .cons (ih (Nat.succ.inj hlength))

-- What comes first decides whatever the last letters are.
theorem shortlex_concat {left right : Text} (h : List.Shortlex (· < ·) left right)
    (leftLast rightLast : Char) :
    List.Shortlex (· < ·) (left ++ [leftLast]) (right ++ [rightLast]) := by
  rcases List.shortlex_def.1 h with hlength | ⟨hlength, hlex⟩
  · refine .of_length_lt ?_
    simp only [List.length_append, List.length_singleton]
    omega
  · refine .of_lex ?_ (lex_append_of_length_eq hlex hlength _ _)
    simp only [List.length_append, List.length_singleton, hlength]

theorem shortlex_letters {number other : Nat} (h : number < other) :
    List.Shortlex (· < ·) (letters number) (letters other) := by
  induction other using Nat.strongRecOn generalizing number with
  | ind other ih =>
    obtain ⟨rest, digit, hrest, hdigit, rfl⟩ := exists_eq_concat (Nat.zero_lt_of_lt h)
    rcases Nat.eq_zero_or_pos number with rfl | hpos
    · rw [letters]
      refine .of_length_lt ?_
      exact List.length_pos_iff.2 (letters_ne_nil (Nat.zero_lt_of_lt h))
    · obtain ⟨first, last, -, hlast, rfl⟩ := exists_eq_concat hpos
      rw [letters_concat first hlast, letters_concat rest hdigit]
      by_cases hfirst : first < rest
      · exact shortlex_concat (ih rest hrest hfirst) _ _
      · -- The numbers differ in their last letter only.
        obtain rfl : first = rest := by omega
        have hlt : last < digit := by omega
        exact .append_left ((List.shortlex_singleton_iff _ _).2 (letterOf_lt hlt hdigit)) _

theorem shortlex_letters_iff {number other : Nat} :
    List.Shortlex (· < ·) (letters number) (letters other) ↔ number < other := by
  refine ⟨fun h => ?_, shortlex_letters⟩
  by_contra hle
  rcases Nat.lt_or_eq_of_le (Nat.le_of_not_lt hle) with hlt | rfl
  · exact Std.Asymm.asymm _ _ h (shortlex_letters hlt)
  · exact Std.Asymm.asymm _ _ h h

end Order

-- There is one pass for each letter.
theorem iterate_findLetter (number : Nat) (found : Text) :
    findLetter^[(letters number).length] (number, found) = (0, found ++ (letters number).reverse) := by
  fun_induction letters number generalizing found with
  | case1 => simp
  | case2 n ih =>
    rw [List.length_append, List.length_singleton, Function.iterate_succ_apply, findLetter, ih,
      List.reverse_append, List.reverse_singleton, List.append_assoc]

theorem bijOn_letters? (within : Nat → Prop) :
    Set.BijOn letters? {number | 1 ≤ number ∧ within number}
      (some '' {text | IsSpelled text ∧ within (numberOf text)}) := by
  have hletters : ∀ number, 1 ≤ number → letters? number = some (letters number) :=
    fun number h => if_neg (Nat.ne_of_gt h)
  refine ⟨?_, ?_, ?_⟩
  · rintro number ⟨hpos, hwithin⟩
    obtain ⟨hspelled, hnumber⟩ := letters?_eq_some_iff.1 (hletters number hpos)
    exact ⟨letters number, ⟨hspelled, hnumber.symm ▸ hwithin⟩, (hletters number hpos).symm⟩
  · rintro number ⟨hpos, -⟩ other ⟨hother, -⟩ heq
    rw [hletters number hpos, hletters other hother] at heq
    exact letters_injective (Option.some.inj heq)
  · rintro _ ⟨text, ⟨hspelled, hwithin⟩, rfl⟩
    have hwritten := letters?_eq_some_iff.2 ⟨hspelled, rfl⟩
    refine ⟨numberOf text, ⟨Nat.pos_of_ne_zero fun hzero => ?_, hwithin⟩, hwritten⟩
    rw [hzero] at hwritten
    contradiction

-- The letters count without a zero, in the order of their length and then of the
-- alphabet; the loop that finds them ends for every number.
theorem letters?_isNumeration :
    IsNumeration letters? ∧
      ∀ number, ∃ passes, findLetter^[passes] (number, []) =
        (0, ((letters? number).getD []).reverse) := by
  refine ⟨⟨rfl, ?_, fun bound => ?_, ?_, ?_⟩, fun number => ?_⟩
  · simpa [Set.Ici] using bijOn_letters? fun _ => True
  · exact bijOn_letters? (· < bound)
  · exact fun number text h => (letters?_eq_some_iff.1 h).2
  · intro number other text htext later hlater
    obtain ⟨⟨-, htextLetters⟩, rfl⟩ := letters?_eq_some_iff.1 htext
    obtain ⟨⟨-, hlaterLetters⟩, rfl⟩ := letters?_eq_some_iff.1 hlater
    rw [← shortlex_letters_iff, letters_numberOf htextLetters, letters_numberOf hlaterLetters]
  · have hletters : (letters? number).getD [] = letters number := by
      cases number with
      | zero => rw [letters]; rfl
      | succ number => rfl
    exact ⟨_, by rw [hletters, iterate_findLetter, List.nil_append]⟩

end Referencing.Citation
