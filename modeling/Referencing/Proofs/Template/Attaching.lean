import Mathlib.Data.List.Forall2
import Referencing.Template.Bracket

namespace Referencing.Template

-- A relation that holds between texts when it holds between their parts.
structure Compatible (rel : Text → Text → Prop) : Prop where
  nil : rel [] []
  append : ∀ {left left' right right' : Text},
    rel left left' → rel right right' → rel (left ++ right) (left' ++ right')

-- The same fields are printed, with related texts.
abbrev Alike (rel : Text → Text → Prop) : Printed → Printed → Prop :=
  List.Forall₂ (Option.Rel rel)

structure Pair.Alike (rel : Text → Text → Prop) (pair other : Pair) : Prop where
  first : pair.first = other.first
  stop : pair.stop = other.stop
  opening : rel pair.opening other.opening
  closing : rel pair.closing other.closing
  alternative : rel pair.alternative other.alternative

-- The texts of the fields one after the other.
def joined (printed : Printed) : Text :=
  (printed.map (·.getD [])).flatten

@[simp] theorem joined_nil : joined [] = [] := rfl

@[simp] theorem joined_cons (slot : Option Text) (printed : Printed) :
    joined (slot :: printed) = slot.getD [] ++ joined printed := rfl

@[simp] theorem joined_append (left right : Printed) :
    joined (left ++ right) = joined left ++ joined right := by
  simp [joined]

variable {rel : Text → Text → Prop} {printed other : Printed}

theorem Alike.joined (hrel : Compatible rel) (h : Alike rel printed other) :
    rel (joined printed) (joined other) := by
  induction h with
  | nil => exact hrel.nil
  | cons hslot _ ih =>
    refine hrel.append ?_ ih
    cases hslot with
    | none => exact hrel.nil
    | some hslot => exact hslot

theorem Alike.isSome_eq (h : Alike rel printed other) (index : Nat) :
    (printed[index]?.join).isSome = (other[index]?.join).isSome := by
  induction h generalizing index with
  | nil => rfl
  | cons hslot _ ih =>
    cases index with
    | zero => cases hslot <;> rfl
    | succ index => exact ih index

theorem Alike.printedWithin_eq (h : Alike rel printed other) (first stop : Nat) :
    printedWithin first stop printed = printedWithin first stop other := by
  simp only [printedWithin, h.isSome_eq]

theorem Alike.changeAt (h : Alike rel printed other) (index : Nat) {change change' : Text → Text}
    (hchange : ∀ {text text' : Text}, rel text text' → rel (change text) (change' text')) :
    Alike rel (changeAt index change printed) (changeAt index change' other) := by
  induction h generalizing index with
  | nil => cases index <;> exact .nil
  | cons hslot hrest ih =>
    cases index with
    | zero =>
      refine .cons ?_ hrest
      cases hslot with
      | none => exact .none
      | some hslot => exact .some (hchange hslot)
    | succ index => exact .cons hslot (ih index)

theorem Alike.attach (hrel : Compatible rel) (h : Alike rel printed other) {pair pair' : Pair}
    (hpair : pair.Alike rel pair') : Alike rel (pair.attach printed) (pair'.attach other) := by
  have hclose : ∀ {text text' : Text}, rel text text' →
      rel (text ++ pair.closing) (text' ++ pair'.closing) := fun hr => hrel.append hr hpair.closing
  have hopen : ∀ {text text' : Text}, rel text text' →
      rel (pair.opening ++ text) (pair'.opening ++ text') := hrel.append hpair.opening
  unfold Pair.attach
  simp only [hpair.first, hpair.stop, h.length_eq, h.printedWithin_eq]
  split
  · next start finish _ _ => exact (h.changeAt start hopen).changeAt finish hclose
  · split
    · next before _ => exact h.changeAt before fun hr => hrel.append hr hpair.alternative
    · split
      · next after _ => exact h.changeAt after (hrel.append hpair.alternative)
      · exact h

theorem Alike.attachAll (hrel : Compatible rel) {pairs pairs' : List Pair}
    (hpairs : List.Forall₂ (Pair.Alike rel) pairs pairs') (h : Alike rel printed other) :
    Alike rel (attachAll pairs printed) (attachAll pairs' other) := by
  induction hpairs generalizing printed other with
  | nil => exact h
  | cons hpair _ ih => exact ih (h.attach hrel hpair)

theorem mem_printedWithin {index first stop : Nat} {printed : Printed} :
    index ∈ printedWithin first stop printed ↔
      (first ≤ index ∧ index < stop) ∧ (printed[index]?.join).isSome := by
  rw [printedWithin, List.mem_filter, List.mem_range'_1]
  constructor <;> rintro ⟨hrange, hsome⟩ <;> exact ⟨by omega, hsome⟩

theorem pairwise_printedWithin (first stop : Nat) (printed : Printed) :
    (printedWithin first stop printed).Pairwise (· < ·) :=
  List.Pairwise.filter _ List.pairwise_lt_range'

theorem head?_le_getLast? {start finish first stop : Nat} {printed : Printed}
    (hstart : (printedWithin first stop printed).head? = some start)
    (hfinish : (printedWithin first stop printed).getLast? = some finish) : start ≤ finish := by
  have hsorted := pairwise_printedWithin first stop printed
  obtain ⟨rest, hrest⟩ := List.head?_eq_some_iff.1 hstart
  have hmem := List.mem_of_getLast? hfinish
  rw [hrest] at hsorted hmem
  rcases List.mem_cons.1 hmem with rfl | hmem
  · exact Nat.le_refl _
  · exact Nat.le_of_lt ((List.pairwise_cons.1 hsorted).1 finish hmem)

-- The place of something printed cuts the list there.
theorem exists_split {index : Nat} {printed : Printed} (h : (printed[index]?.join).isSome) :
    ∃ before text after, printed = before ++ some text :: after ∧ before.length = index := by
  obtain ⟨text, htext⟩ := Option.isSome_iff_exists.1 h
  obtain ⟨hlt, hget⟩ := List.getElem?_eq_some_iff.1 (Option.join_eq_some_iff.1 htext)
  refine ⟨printed.take index, text, printed.drop (index + 1), ?_, ?_⟩
  · rw [← hget, List.getElem_cons_drop, List.take_append_drop]
  · rw [List.length_take, Nat.min_eq_left (Nat.le_of_lt hlt)]

theorem changeAt_length (before : Printed) (text : Text) (after : Printed) (change : Text → Text) :
    changeAt before.length change (before ++ some text :: after) =
      before ++ some (change text) :: after := by
  induction before with
  | nil => rfl
  | cons slot rest ih => exact congrArg (slot :: ·) ih

-- What stands from one printed place to another is put between two texts.
theorem changeAt_around {start finish : Nat} {printed : Printed}
    (hstart : (printed[start]?.join).isSome) (hfinish : (printed[finish]?.join).isSome)
    (hle : start ≤ finish) (opening closing : Text) :
    ∃ before enclosed wrapped after, printed = before ++ enclosed ++ after ∧
      changeAt finish (· ++ closing) (changeAt start (opening ++ ·) printed) =
        before ++ wrapped ++ after ∧
      before.length = start ∧ before.length + enclosed.length = finish + 1 ∧
      wrapped.length = enclosed.length ∧
      joined wrapped = opening ++ joined enclosed ++ closing := by
  obtain ⟨before, text, after, rfl, rfl⟩ := exists_split hstart
  rw [changeAt_length]
  rcases Nat.eq_or_lt_of_le hle with rfl | hlt
  · refine ⟨before, [some text], [some (opening ++ text ++ closing)], after, by simp, ?_, rfl, rfl,
      rfl, by simp⟩
    rw [changeAt_length, List.append_assoc before, List.singleton_append]
  · have hlast : (after[finish - before.length - 1]?.join).isSome := by
      obtain ⟨distance, rfl⟩ := Nat.exists_eq_add_of_lt hlt
      rw [List.getElem?_append_right (by omega)] at hfinish
      simpa [Nat.add_assoc] using hfinish
    obtain ⟨middle, last, rest, rfl, hmiddle⟩ := exists_split hlast
    have hlength : (before ++ some (opening ++ text) :: middle).length = finish := by
      simp only [List.length_append, List.length_cons]
      omega
    have hchange := changeAt_length (before ++ some (opening ++ text) :: middle) last rest
      (· ++ closing)
    rw [hlength] at hchange
    refine ⟨before, some text :: (middle ++ [some last]),
      some (opening ++ text) :: (middle ++ [some (last ++ closing)]), rest, by simp,
      by simpa using hchange, rfl, ?_, by simp, by simp⟩
    simp only [List.length_append, List.length_cons, List.length_nil]
    omega

-- All that attaching a pair can do: put its texts around fields in its range, or
-- put its alternative after a field before the range or before one after it.
theorem attach_cases (pair : Pair) (printed : Printed) :
    (∃ before enclosed wrapped after, printed = before ++ enclosed ++ after ∧
      pair.attach printed = before ++ wrapped ++ after ∧ pair.first ≤ before.length ∧
      before.length + enclosed.length ≤ pair.stop ∧ wrapped.length = enclosed.length ∧
      joined wrapped = pair.opening ++ joined enclosed ++ pair.closing) ∨
    (∃ before text after, printed = before ++ some text :: after ∧
      pair.attach printed = before ++ some (text ++ pair.alternative) :: after ∧
      before.length < pair.first) ∨
    (∃ before text after, printed = before ++ some text :: after ∧
      pair.attach printed = before ++ some (pair.alternative ++ text) :: after ∧
      pair.stop ≤ before.length) ∨
    pair.attach printed = printed := by
  unfold Pair.attach
  simp only []
  split
  · next start finish hstart hfinish =>
    left
    obtain ⟨hrange, hsome⟩ := mem_printedWithin.1 (List.mem_of_head? hstart)
    obtain ⟨hrange', hsome'⟩ := mem_printedWithin.1 (List.mem_of_getLast? hfinish)
    obtain ⟨before, enclosed, wrapped, after, hprinted, hattach, hbefore, hend, hrest⟩ :=
      changeAt_around hsome hsome' (head?_le_getLast? hstart hfinish) pair.opening pair.closing
    exact ⟨before, enclosed, wrapped, after, hprinted, hattach, by omega, by omega, hrest⟩
  · split
    · next before hbefore =>
      right; left
      obtain ⟨hrange, hsome⟩ := mem_printedWithin.1 (List.mem_of_getLast? hbefore)
      obtain ⟨before, text, after, rfl, rfl⟩ := exists_split hsome
      exact ⟨before, text, after, rfl, changeAt_length _ _ _ _, by omega⟩
    · split
      · next after hafter =>
        right; right; left
        obtain ⟨hrange, hsome⟩ := mem_printedWithin.1 (List.mem_of_head? hafter)
        obtain ⟨before, text, after, rfl, rfl⟩ := exists_split hsome
        exact ⟨before, text, after, rfl, changeAt_length _ _ _ _, by omega⟩
      · exact .inr (.inr (.inr rfl))

theorem joined_sublist_attach (pair : Pair) (printed : Printed) :
    (joined printed).Sublist (joined (pair.attach printed)) := by
  rcases attach_cases pair printed with
    ⟨before, enclosed, wrapped, after, rfl, hattach, -, -, -, hjoined⟩ |
    ⟨before, text, after, rfl, hattach, -⟩ | ⟨before, text, after, rfl, hattach, -⟩ | hattach
  · rw [hattach]
    simp only [joined_append, hjoined]
    refine (List.Sublist.append_left ?_ _).append_right _
    exact (List.sublist_append_right _ _).trans (List.sublist_append_left _ _)
  · rw [hattach]
    simp
  · rw [hattach]
    simp
  · rw [hattach]

theorem joined_sublist_attachAll (pairs : List Pair) (printed : Printed) :
    (joined printed).Sublist (joined (attachAll pairs printed)) := by
  induction pairs generalizing printed with
  | nil => exact .refl _
  | cons pair rest ih => exact (joined_sublist_attach pair printed).trans (ih _)

-- There is nothing to attach a pair to.
theorem attach_replicate_none (pair : Pair) (length : Nat) :
    pair.attach (.replicate length none) = .replicate length none := by
  have hnothing : ∀ first stop, printedWithin first stop (.replicate length none) = [] := by
    intro first stop
    refine List.filter_eq_nil_iff.2 fun index _ => ?_
    rw [List.getElem?_replicate]
    split <;> simp
  simp [Pair.attach, hnothing]

theorem attachAll_replicate_none (pairs : List Pair) (length : Nat) :
    attachAll pairs (.replicate length none) = .replicate length none := by
  induction pairs with
  | nil => rfl
  | cons pair rest ih =>
    rw [attachAll, List.foldl_cons, attach_replicate_none]
    exact ih

end Referencing.Template
