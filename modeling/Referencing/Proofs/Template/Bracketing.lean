import Referencing.Proofs.Template.Attaching
import Referencing.Proofs.Template.PairOrder
import Referencing.Template.Render

namespace Referencing.Template

open Text

def Pair.Encloses (pair : Pair) (index : Nat) : Prop :=
  pair.first ≤ index ∧ index < pair.stop

section Presence

variable (pair : Pair) (present : Nat → Bool) (index : Nat)

-- The first field of a pair that is there.
def Pair.OpensAt : Prop :=
  pair.Encloses index ∧ present index = true ∧
    ∀ earlier < index, pair.first ≤ earlier → present earlier = false

-- The last field of a pair that is there.
def Pair.ClosesAt : Prop :=
  pair.Encloses index ∧ present index = true ∧
    ∀ later < pair.stop, index < later → present later = false

-- None of the fields of a pair is there.
def Pair.IsIdle : Prop :=
  ∀ index < pair.stop, pair.first ≤ index → present index = false

instance : Decidable (pair.Encloses index) := by
  unfold Pair.Encloses
  infer_instance

instance : Decidable (pair.OpensAt present index) := by
  unfold Pair.OpensAt
  infer_instance

instance : Decidable (pair.ClosesAt present index) := by
  unfold Pair.ClosesAt
  infer_instance

instance : Decidable (pair.IsIdle present) := by
  unfold Pair.IsIdle
  infer_instance

end Presence

-- The text of a field between the texts of the pairs that begin and end with it.
def bracketed (pairs : List Pair) (present : Nat → Bool) (index : Nat) (text : Text) : Text :=
  (pairs.filter (·.OpensAt present index)).flatMap (·.opening) ++ text ++
    (pairs.filter (·.ClosesAt present index)).flatMap (·.closing)

variable {pair : Pair} {pairs : List Pair} {present : Nat → Bool} {printed : Printed}

theorem Pair.OpensAt.eq {index other : Nat} (h : pair.OpensAt present index)
    (hother : pair.OpensAt present other) : index = other := by
  obtain ⟨⟨hfirst, -⟩, hpresent, hearlier⟩ := h
  obtain ⟨⟨hfirst', -⟩, hpresent', hearlier'⟩ := hother
  rcases Nat.lt_trichotomy index other with hlt | heq | hlt
  · rw [hearlier' index hlt hfirst] at hpresent
    contradiction
  · exact heq
  · rw [hearlier other hlt hfirst'] at hpresent'
    contradiction

theorem Pair.ClosesAt.eq {index other : Nat} (h : pair.ClosesAt present index)
    (hother : pair.ClosesAt present other) : index = other := by
  obtain ⟨⟨-, hstop⟩, hpresent, hlater⟩ := h
  obtain ⟨⟨-, hstop'⟩, hpresent', hlater'⟩ := hother
  rcases Nat.lt_trichotomy index other with hlt | heq | hlt
  · rw [hlater other hstop' hlt] at hpresent'
    contradiction
  · exact heq
  · rw [hlater' index hstop hlt] at hpresent
    contradiction

theorem Pair.IsIdle.not_opensAt (h : pair.IsIdle present) (index : Nat) :
    ¬pair.OpensAt present index := by
  rintro ⟨⟨hfirst, hstop⟩, hpresent, -⟩
  rw [h index hstop hfirst] at hpresent
  contradiction

theorem Pair.IsIdle.not_closesAt (h : pair.IsIdle present) (index : Nat) :
    ¬pair.ClosesAt present index := by
  rintro ⟨⟨hfirst, hstop⟩, hpresent, -⟩
  rw [h index hstop hfirst] at hpresent
  contradiction

-- The places at which something is printed.
def isPrinted (printed : Printed) (index : Nat) : Bool :=
  (printed[index]?.join).isSome

theorem lt_length_of_isPrinted {index : Nat} (h : isPrinted printed index = true) :
    index < printed.length := by
  by_contra hge
  rw [isPrinted, List.getElem?_eq_none (Nat.le_of_not_lt hge)] at h
  contradiction

-- The places among which attaching a pair looks for its first and last field.
def Pair.inside (pair : Pair) (printed : Printed) : List Nat :=
  printedWithin (min pair.first (min pair.stop printed.length)) (min pair.stop printed.length)
    printed

theorem mem_inside (pair : Pair) (printed : Printed) (index : Nat) :
    index ∈ pair.inside printed ↔ pair.Encloses index ∧ isPrinted printed index = true := by
  rw [Pair.inside, mem_printedWithin, Pair.Encloses]
  constructor
  · rintro ⟨hrange, hprinted⟩
    exact ⟨by omega, hprinted⟩
  · rintro ⟨hrange, hprinted⟩
    have hlt := lt_length_of_isPrinted hprinted
    exact ⟨by omega, hprinted⟩

-- Where the first place that is printed in a range is, nothing is printed before it.
theorem head?_printedWithin {first stop start : Nat}
    (h : (printedWithin first stop printed).head? = some start) :
    (first ≤ start ∧ start < stop) ∧ isPrinted printed start = true ∧
      ∀ earlier < start, first ≤ earlier → isPrinted printed earlier = false := by
  obtain ⟨hrange, hprinted⟩ := mem_printedWithin.1 (List.mem_of_head? h)
  refine ⟨hrange, hprinted, fun earlier hearlier hfirst => ?_⟩
  by_contra hne
  have hmem : earlier ∈ printedWithin first stop printed :=
    mem_printedWithin.2 ⟨⟨hfirst, by omega⟩, eq_true_of_ne_false hne⟩
  have hsorted := pairwise_printedWithin first stop printed
  obtain ⟨rest, hrest⟩ := List.head?_eq_some_iff.1 h
  rw [hrest] at hmem hsorted
  rcases List.mem_cons.1 hmem with rfl | hmem
  · exact Nat.lt_irrefl _ hearlier
  · exact Nat.lt_asymm hearlier ((List.pairwise_cons.1 hsorted).1 earlier hmem)

theorem getLast?_printedWithin {first stop finish : Nat}
    (h : (printedWithin first stop printed).getLast? = some finish) :
    (first ≤ finish ∧ finish < stop) ∧ isPrinted printed finish = true ∧
      ∀ later < stop, finish < later → isPrinted printed later = false := by
  obtain ⟨hrange, hprinted⟩ := mem_printedWithin.1 (List.mem_of_getLast? h)
  refine ⟨hrange, hprinted, fun later hstop hlater => ?_⟩
  by_contra hne
  have hmem : later ∈ printedWithin first stop printed :=
    mem_printedWithin.2 ⟨⟨by omega, hstop⟩, eq_true_of_ne_false hne⟩
  have hsorted := pairwise_printedWithin first stop printed
  obtain ⟨init, hinit⟩ := List.getLast?_eq_some_iff.1 h
  rw [hinit] at hmem hsorted
  rcases List.mem_append.1 hmem with hmem | hmem
  · have hlt := (List.pairwise_append.1 hsorted).2.2 later hmem finish (by simp)
    exact Nat.lt_asymm hlater hlt
  · rw [List.mem_singleton.1 hmem] at hlater
    exact Nat.lt_irrefl _ hlater

theorem opensAt_head? {start : Nat} (h : (pair.inside printed).head? = some start) :
    pair.OpensAt (isPrinted printed) start := by
  obtain ⟨hencloses, hprinted⟩ := (mem_inside pair printed start).1 (List.mem_of_head? h)
  obtain ⟨-, -, hearlier⟩ := head?_printedWithin h
  exact ⟨hencloses, hprinted, fun earlier hlt hfirst => hearlier earlier hlt (by omega)⟩

theorem closesAt_getLast? {finish : Nat} (h : (pair.inside printed).getLast? = some finish) :
    pair.ClosesAt (isPrinted printed) finish := by
  obtain ⟨hencloses, hprinted⟩ := (mem_inside pair printed finish).1 (List.mem_of_getLast? h)
  obtain ⟨-, -, hlater⟩ := getLast?_printedWithin h
  refine ⟨hencloses, hprinted, fun later hstop hlt => ?_⟩
  by_contra hne
  have hlength : later < printed.length := lt_length_of_isPrinted (by simpa using hne)
  exact hne (hlater later (by omega) hlt)

theorem getElem?_changeAt (place : Nat) (change : Text → Text) (printed : Printed) (index : Nat) :
    (changeAt place change printed)[index]? =
      (printed[index]?).map (·.map fun text => if place = index then change text else text) := by
  rw [changeAt, List.getElem?_modify]
  by_cases h : place = index <;> simp [h]

theorem changeAt_of_eq_self {change : Text → Text} (h : ∀ text, change text = text) (place : Nat)
    (printed : Printed) : changeAt place change printed = printed := by
  refine List.ext_getElem? fun index => ?_
  simp [getElem?_changeAt, h]

theorem mapIdx_of_eq_self {change : Nat → Text → Text}
    (h : ∀ index text, change index text = text) (printed : Printed) :
    (printed.mapIdx fun index slot => slot.map (change index)) = printed := by
  refine List.ext_getElem? fun index => ?_
  have hsame : change index = id := funext (h index)
  simp [List.getElem?_mapIdx, hsame]

-- A pair either has a first and a last field that is printed, or none.
theorem exists_ends (h : ¬pair.IsIdle (isPrinted printed)) :
    ∃ start finish,
      (pair.inside printed).head? = some start ∧ (pair.inside printed).getLast? = some finish := by
  have hne : pair.inside printed ≠ [] := by
    intro hnil
    refine h fun index hstop hfirst => ?_
    by_contra hprinted
    have hmem := (mem_inside pair printed index).2 ⟨⟨hfirst, hstop⟩, by simpa using hprinted⟩
    rw [hnil] at hmem
    exact List.not_mem_nil hmem
  exact ⟨_, _, List.head?_eq_some_head hne, List.getLast?_eq_some_getLast hne⟩

-- A pair that encloses something adds its texts to its first and last field, and
-- one that does not adds nothing if it has no alternative.
theorem attach_eq_mapIdx (h : pair.IsIdle (isPrinted printed) → pair.alternative = []) :
    pair.attach printed = printed.mapIdx fun index slot =>
      slot.map (bracketed [pair] (isPrinted printed) index) := by
  unfold Pair.attach
  simp only []
  split
  · next start finish hstart hfinish =>
    have hopens := opensAt_head? hstart
    have hcloses := closesAt_getLast? hfinish
    refine List.ext_getElem? fun index => ?_
    have hopensIff : pair.OpensAt (isPrinted printed) index ↔ start = index :=
      ⟨hopens.eq, fun heq => heq ▸ hopens⟩
    have hclosesIff : pair.ClosesAt (isPrinted printed) index ↔ finish = index :=
      ⟨hcloses.eq, fun heq => heq ▸ hcloses⟩
    rw [getElem?_changeAt, getElem?_changeAt, List.getElem?_mapIdx, Option.map_map]
    congr 1
    funext slot
    rw [Function.comp, Option.map_map]
    congr 1
    funext text
    by_cases hs : start = index <;> by_cases hf : finish = index <;>
      simp [bracketed, hopensIff, hclosesIff, hs, hf]
  · next hends =>
    have hidle : pair.IsIdle (isPrinted printed) := by
      by_contra hbusy
      obtain ⟨start, finish, hstart, hfinish⟩ := exists_ends hbusy
      exact hends start finish hstart hfinish
    have hsame : ∀ index text, bracketed [pair] (isPrinted printed) index text = text := by
      intro index text
      simp [bracketed, hidle.not_opensAt, hidle.not_closesAt]
    rw [h hidle, mapIdx_of_eq_self hsame]
    split
    · exact changeAt_of_eq_self (fun text => List.append_nil text) _ _
    · split
      · exact changeAt_of_eq_self (fun text => List.nil_append text) _ _
      · rfl

theorem isPrinted_mapIdx (change : Nat → Text → Text) (printed : Printed) :
    isPrinted (printed.mapIdx fun index slot => slot.map (change index)) = isPrinted printed := by
  funext index
  rw [isPrinted, isPrinted, List.getElem?_mapIdx]
  cases printed[index]? with
  | none => rfl
  | some slot => cases slot <;> rfl

-- No field is enclosed by two pairs.
theorem InOrder.pairwise_apart {start : Nat} (h : InOrder start pairs) :
    pairs.Pairwise fun earlier later =>
      ∀ index, ¬(earlier.Encloses index ∧ later.Encloses index) := by
  refine h.pairwise.imp fun hapart index => ?_
  rintro ⟨⟨-, hstop⟩, ⟨hfirst, -⟩⟩
  omega

-- Around a field that one pair encloses the other pairs put nothing.
theorem bracketed_cons (hapart : ∀ later ∈ pairs, ∀ index,
      ¬(pair.Encloses index ∧ later.Encloses index)) (index : Nat) (text : Text) :
    bracketed pairs present index (bracketed [pair] present index text) =
      bracketed (pair :: pairs) present index text := by
  by_cases hpair : pair.Encloses index
  · have hopens : pairs.filter (·.OpensAt present index) = [] := by
      refine List.filter_eq_nil_iff.2 fun later hlater hopens => ?_
      exact hapart later hlater index ⟨hpair, (of_decide_eq_true hopens).1⟩
    have hcloses : pairs.filter (·.ClosesAt present index) = [] := by
      refine List.filter_eq_nil_iff.2 fun later hlater hcloses => ?_
      exact hapart later hlater index ⟨hpair, (of_decide_eq_true hcloses).1⟩
    simp only [bracketed, List.filter_cons, hopens, hcloses]
    simp
  · have hopens : ¬pair.OpensAt present index := fun h => hpair h.1
    have hcloses : ¬pair.ClosesAt present index := fun h => hpair h.1
    simp [bracketed, hopens, hcloses]

theorem attachAll_eq_mapIdx
    (hapart : pairs.Pairwise fun earlier later =>
      ∀ index, ¬(earlier.Encloses index ∧ later.Encloses index))
    (h : ∀ pair ∈ pairs, pair.IsIdle (isPrinted printed) → pair.alternative = []) :
    attachAll pairs printed = printed.mapIdx fun index slot =>
      slot.map (bracketed pairs (isPrinted printed) index) := by
  induction pairs generalizing printed with
  | nil => exact (mapIdx_of_eq_self (fun index text => List.append_nil text) printed).symm
  | cons pair rest ih =>
    obtain ⟨hpair, hrest⟩ := List.pairwise_cons.1 hapart
    rw [List.forall_mem_cons] at h
    have hpresent : isPrinted (pair.attach printed) = isPrinted printed := by
      rw [attach_eq_mapIdx h.1, isPrinted_mapIdx]
    have hidle : ∀ later ∈ rest, later.IsIdle (isPrinted (pair.attach printed)) →
        later.alternative = [] := by
      rw [hpresent]
      exact h.2
    rw [attachAll, List.foldl_cons, ← attachAll, ih hrest hidle, hpresent, attach_eq_mapIdx h.1,
      List.mapIdx_mapIdx]
    congr 1
    funext index slot
    simp only [Function.comp, Option.map_map]
    congr 1
    funext text
    exact bracketed_cons hpair index text

-- The fields of a template that have a value.
def isPresent (template : Template) (item : Item) (index : Nat) : Bool :=
  (template.fields.entries[index]?).any (item.has ·.1)

-- The texts of the fields before the pairs are attached.
def fieldTexts (template : Template) (item : Item) (plurals : Plurals) : Printed :=
  (slots template item plurals).map (·.map Slot.text)

theorem isPrinted_slotsFrom (item : Item) (plurals : Plurals) (previous : Option Text)
    (adjacent : Bool) (fields : List (Text × FieldSpec)) (index : Nat) :
    isPrinted ((slotsFrom item plurals previous adjacent fields).map (·.map Slot.text)) index =
      (fields[index]?).any (item.has ·.1) := by
  induction fields generalizing previous adjacent index with
  | nil => rfl
  | cons field rest ih =>
    obtain ⟨name, spec⟩ := field
    cases hvalue : item.get? name with
    | none =>
      simp only [slotsFrom, hvalue]
      cases index with
      | zero => simp [isPrinted, Item.has, hvalue]
      | succ index => simpa [isPrinted] using ih previous false index
    | some value =>
      simp only [slotsFrom, hvalue]
      cases index with
      | zero => simp [isPrinted, Item.has, hvalue]
      | succ index => simpa [isPrinted] using ih _ true index

theorem isPrinted_fieldTexts (template : Template) (item : Item) (plurals : Plurals) :
    isPrinted (fieldTexts template item plurals) = isPresent template item :=
  funext (isPrinted_slotsFrom item plurals none false template.fields.entries)

-- How a body is made up of the texts of the fields and of the pairs around them.
structure IsBracketed (template : Template) (item : Item) (plurals : Plurals) (body : Text) :
    Prop where
  -- The fields that have a value are printed, in the order of the template.
  present : ∀ index, ((fieldTexts template item plurals)[index]?.join).isSome =
    isPresent template item index
  text : body = joined ((fieldTexts template item plurals).mapIdx fun index slot =>
    slot.map (bracketed template.pairs (isPresent template item) index))
  -- Each text of a pair that encloses something stands at one place.
  opensOnce : ∀ pair ∈ template.pairs, ¬pair.IsIdle (isPresent template item) →
    ∃! start, pair.OpensAt (isPresent template item) start
  closesOnce : ∀ pair ∈ template.pairs, ¬pair.IsIdle (isPresent template item) →
    ∃! finish, pair.ClosesAt (isPresent template item) finish
  idle : ∀ pair ∈ template.pairs, pair.IsIdle (isPresent template item) →
    ∀ index, ¬pair.OpensAt (isPresent template item) index ∧
      ¬pair.ClosesAt (isPresent template item) index
  -- What stands between the two texts of a pair is in its range, and in no other.
  within : ∀ pair ∈ template.pairs, ∀ start finish,
    pair.OpensAt (isPresent template item) start →
    pair.ClosesAt (isPresent template item) finish →
    start ≤ finish ∧ ∀ index, start ≤ index → index ≤ finish → pair.Encloses index
  apart : template.pairs.Pairwise fun earlier later =>
    ∀ index, ¬(earlier.Encloses index ∧ later.Encloses index)

theorem Pair.OpensAt.le_closesAt {start finish : Nat} (hopens : pair.OpensAt present start)
    (hcloses : pair.ClosesAt present finish) : start ≤ finish := by
  obtain ⟨-, -, hearlier⟩ := hopens
  obtain ⟨⟨hfirst, -⟩, hpresent, -⟩ := hcloses
  by_contra hlt
  rw [hearlier finish (Nat.lt_of_not_le hlt) hfirst] at hpresent
  contradiction

-- The pairs of a compiled template stand around the fields that they enclose, if
-- none of them has something else to print.
theorem body_compile_bracketed (source : Text) (names : FieldSet) (item : Item) (plurals : Plurals)
    (h : ∀ pair ∈ (compile source names).pairs,
      pair.IsIdle (isPresent (compile source names) item) → pair.alternative = []) :
    IsBracketed (compile source names) item plurals
      (body (compile source names) item plurals) := by
  have hpresent := isPrinted_fieldTexts (compile source names) item plurals
  have hapart := (inOrder_compile source names).pairwise_apart
  constructor
  case present => exact congrFun hpresent
  case text =>
    rw [← hpresent] at h ⊢
    have hattached := attachAll_eq_mapIdx hapart h
    exact congrArg joined hattached
  case opensOnce =>
    intro pair _ hbusy
    rw [← hpresent] at hbusy ⊢
    obtain ⟨start, finish, hstart, -⟩ := exists_ends hbusy
    have hopens := opensAt_head? hstart
    exact ⟨start, hopens, fun other hother => hother.eq hopens⟩
  case closesOnce =>
    intro pair _ hbusy
    rw [← hpresent] at hbusy ⊢
    obtain ⟨start, finish, -, hfinish⟩ := exists_ends hbusy
    have hcloses := closesAt_getLast? hfinish
    exact ⟨finish, hcloses, fun other hother => hother.eq hcloses⟩
  case idle => exact fun pair _ hidle index => ⟨hidle.not_opensAt index, hidle.not_closesAt index⟩
  case within =>
    intro pair _ start finish hopens hcloses
    refine ⟨hopens.le_closesAt hcloses, fun index hstart hfinish => ?_⟩
    obtain ⟨⟨hfirst, -⟩, -⟩ := hopens
    obtain ⟨⟨-, hstop⟩, -⟩ := hcloses
    exact ⟨by omega, by omega⟩
  case apart => exact hapart

-- Of two pairs the one around what is missing prints nothing.
theorem bracketed_body_of_essays :
    let names := FieldSet.ofList
      (["title", "publisherName", "publisherLocation", "year1"].map String.toList)
    let template := compile "title| (|publisherName|publisherLocation|)| [|year1|]|.".toList names
    let item := Item.ofList [("title".toList, "Essays".toList), ("year1".toList, "1990".toList)]
    (∀ pair ∈ template.pairs, pair.IsIdle (isPresent template item) → pair.alternative = []) ∧
      (template.pairs.map fun pair => decide (pair.IsIdle (isPresent template item))) =
        [true, false] ∧
      IsBracketed template item .empty "Essays [1990]".toList := by
  intro names template item
  have hidle : ∀ pair ∈ template.pairs, pair.IsIdle (isPresent template item) →
      pair.alternative = [] := by
    decide +kernel
  have hbody : body template item .empty = "Essays [1990]".toList := by decide +kernel
  refine ⟨hidle, by decide +kernel, ?_⟩
  rw [← hbody]
  exact body_compile_bracketed _ names item .empty hidle

end Referencing.Template
