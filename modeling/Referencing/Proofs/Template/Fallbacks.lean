import Referencing.Proofs.Template.Bracketing

namespace Referencing.Template

open Text

section Presence

variable (pair : Pair) (present : Nat → Bool) (index : Nat)

-- There is nothing to put the pair around, and something to print instead.
def Pair.FallsBack : Prop :=
  pair.IsIdle present ∧ pair.alternative ≠ []

-- Nothing is there before the pair.
def Pair.Begins : Prop :=
  ∀ earlier < pair.first, present earlier = false

-- The last field that is there before a pair whose alternative is printed.
def Pair.FollowsAt : Prop :=
  pair.FallsBack present ∧ index < pair.first ∧ present index = true ∧
    ∀ later < pair.first, index < later → present later = false

-- The first field that is there after such a pair, if none is before it.
def Pair.LeadsAt : Prop :=
  pair.FallsBack present ∧ pair.first ≤ index ∧ present index = true ∧
    ∀ earlier < index, present earlier = false

instance : Decidable (pair.FallsBack present) := by
  unfold Pair.FallsBack
  infer_instance

instance : Decidable (pair.Begins present) := by
  unfold Pair.Begins
  infer_instance

instance : Decidable (pair.FollowsAt present index) := by
  unfold Pair.FollowsAt
  infer_instance

instance : Decidable (pair.LeadsAt present index) := by
  unfold Pair.LeadsAt
  infer_instance

end Presence

-- What can stand at the place of a field, in the order in which it stands there.
inductive Piece where
  | opening (pair : Pair)
  | leading (pair : Pair)
  | field (text : Text)
  | closing (pair : Pair)
  | following (pair : Pair)

structure Placed where
  index : Nat
  piece : Piece

namespace Piece

def text : Piece → Text
  | opening pair => pair.opening
  | leading pair => pair.alternative
  | field text => text
  | closing pair => pair.closing
  | following pair => pair.alternative

def rank : Piece → Nat
  | opening _ => 0
  | leading _ => 1
  | field _ => 2
  | closing _ => 3
  | following _ => 4

def opening? : Piece → Option Pair
  | opening pair => some pair
  | _ => none

def closing? : Piece → Option Pair
  | closing pair => some pair
  | _ => none

def field? : Piece → Option Text
  | field text => some text
  | _ => none

def fallback? : Piece → Option Pair
  | leading pair => some pair
  | following pair => some pair
  | _ => none

end Piece

def Placed.rank (placed : Placed) : Nat :=
  5 * placed.index + placed.piece.rank

variable {pair : Pair} {pairs : List Pair} {present : Nat → Bool} {printed : Printed}

-- Of the alternatives in front of a field the last one was put there first.
def piecesAt (pairs : List Pair) (present : Nat → Bool) (index : Nat) (text : Text) : List Piece :=
  (pairs.filter (·.OpensAt present index)).map .opening ++
    ((pairs.filter (·.LeadsAt present index)).reverse.map .leading ++
      (.field text :: ((pairs.filter (·.ClosesAt present index)).map .closing ++
        (pairs.filter (·.FollowsAt present index)).map .following)))

def dressed (pairs : List Pair) (present : Nat → Bool) (index : Nat) (text : Text) : Text :=
  (piecesAt pairs present index text).flatMap Piece.text

theorem dressed_eq (pairs : List Pair) (present : Nat → Bool) (index : Nat) (text : Text) :
    dressed pairs present index text =
      (pairs.filter (·.OpensAt present index)).flatMap (·.opening) ++
        ((pairs.filter (·.LeadsAt present index)).reverse.flatMap (·.alternative) ++
          (text ++ ((pairs.filter (·.ClosesAt present index)).flatMap (·.closing) ++
            (pairs.filter (·.FollowsAt present index)).flatMap (·.alternative)))) := by
  simp only [dressed, piecesAt, List.flatMap_append, List.flatMap_cons, List.flatMap_map, Piece.text]

theorem dressed_eq_bracketed (h : ∀ pair ∈ pairs, ¬pair.FallsBack present) (index : Nat)
    (text : Text) : dressed pairs present index text = bracketed pairs present index text := by
  have hleads : pairs.filter (·.LeadsAt present index) = [] :=
    List.filter_eq_nil_iff.2 fun pair hpair hleads =>
      h pair hpair (of_decide_eq_true hleads).1
  have hfollows : pairs.filter (·.FollowsAt present index) = [] :=
    List.filter_eq_nil_iff.2 fun pair hpair hfollows =>
      h pair hpair (of_decide_eq_true hfollows).1
  rw [dressed_eq, hleads, hfollows, bracketed]
  simp

theorem Pair.FollowsAt.eq {index other : Nat} (h : pair.FollowsAt present index)
    (hother : pair.FollowsAt present other) : index = other := by
  obtain ⟨-, hfirst, hpresent, hlater⟩ := h
  obtain ⟨-, hfirst', hpresent', hlater'⟩ := hother
  rcases Nat.lt_trichotomy index other with hlt | heq | hlt
  · rw [hlater other hfirst' hlt] at hpresent'
    contradiction
  · exact heq
  · rw [hlater' index hfirst hlt] at hpresent
    contradiction

theorem Pair.LeadsAt.eq {index other : Nat} (h : pair.LeadsAt present index)
    (hother : pair.LeadsAt present other) : index = other := by
  obtain ⟨-, -, hpresent, hearlier⟩ := h
  obtain ⟨-, -, hpresent', hearlier'⟩ := hother
  rcases Nat.lt_trichotomy index other with hlt | heq | hlt
  · rw [hearlier' index hlt] at hpresent
    contradiction
  · exact heq
  · rw [hearlier other hlt] at hpresent'
    contradiction

theorem Pair.LeadsAt.begins {index : Nat} (h : pair.LeadsAt present index) :
    pair.Begins present :=
  fun earlier hearlier => h.2.2.2 earlier (Nat.lt_of_lt_of_le hearlier h.2.1)

theorem Pair.FollowsAt.not_begins {index : Nat} (h : pair.FollowsAt present index) :
    ¬pair.Begins present := by
  obtain ⟨-, hfirst, hpresent, -⟩ := h
  intro hbegins
  rw [hbegins index hfirst] at hpresent
  contradiction

theorem changeAt_eq_mapIdx {place : Nat} {change : Text → Text} {changes : Nat → Text → Text}
    (h : ∀ index text, changes index text = if place = index then change text else text) :
    changeAt place change printed =
      printed.mapIdx fun index slot => slot.map (changes index) := by
  refine List.ext_getElem? fun index => ?_
  rw [getElem?_changeAt, List.getElem?_mapIdx]
  congr 1
  funext slot
  rw [funext (h index)]

theorem not_isPrinted_of_printedWithin {first stop : Nat}
    (h : printedWithin first stop printed = []) (index : Nat) (hfirst : first ≤ index)
    (hstop : index < stop) : ¬isPrinted printed index = true := by
  intro hprinted
  have hmem : index ∈ printedWithin first stop printed :=
    mem_printedWithin.2 ⟨⟨hfirst, hstop⟩, hprinted⟩
  rw [h] at hmem
  exact List.not_mem_nil hmem

-- Where a pair that falls back puts its alternative.
theorem dressed_of_fallsBack (h : pair.FallsBack present) (index : Nat) (text : Text) :
    dressed [pair] present index text =
      (if pair.LeadsAt present index then pair.alternative else []) ++ text ++
        if pair.FollowsAt present index then pair.alternative else [] := by
  by_cases hleads : pair.LeadsAt present index <;>
    by_cases hfollows : pair.FollowsAt present index <;>
    simp [dressed_eq, h.1.not_opensAt, h.1.not_closesAt, hleads, hfollows]

-- An alternative that is printed at all is printed behind the last field that is
-- there before its pair, or else in front of the first one.
theorem attach_of_fallsBack (hrange : pair.first ≤ pair.stop)
    (h : pair.FallsBack (isPrinted printed)) :
    pair.attach printed = printed.mapIdx fun index slot =>
      slot.map (dressed [pair] (isPrinted printed) index) := by
  unfold Pair.attach
  simp only []
  split
  · next start finish hstart hfinish =>
    exact absurd (opensAt_head? hstart) (h.1.not_opensAt start)
  · split
    · next before hbefore =>
      obtain ⟨hbound, hpresent, hlater⟩ := getLast?_printedWithin hbefore
      have hfollows : pair.FollowsAt (isPrinted printed) before := by
        refine ⟨h, by omega, hpresent, fun later hfirst hlt => ?_⟩
        by_contra hne
        have hlength := lt_length_of_isPrinted (eq_true_of_ne_false hne)
        exact hne (hlater later (by omega) hlt)
      refine changeAt_eq_mapIdx fun index text => ?_
      have hleads : ¬pair.LeadsAt (isPrinted printed) index :=
        fun hleads => hfollows.not_begins hleads.begins
      have hplace : pair.FollowsAt (isPrinted printed) index ↔ before = index :=
        ⟨hfollows.eq, fun heq => heq ▸ hfollows⟩
      rw [dressed_of_fallsBack h, if_neg hleads]
      by_cases heq : before = index <;> simp [hplace, heq]
    · next hbefore =>
      have hbegins : pair.Begins (isPrinted printed) := by
        intro earlier hfirst
        by_contra hne
        have hprinted := eq_true_of_ne_false hne
        have hlength := lt_length_of_isPrinted hprinted
        exact not_isPrinted_of_printedWithin (List.getLast?_eq_none_iff.1 hbefore) earlier
          (Nat.zero_le _) (by omega) hprinted
      have hfollows : ∀ index, ¬pair.FollowsAt (isPrinted printed) index :=
        fun index hfollows => hfollows.not_begins hbegins
      split
      · next after hafter =>
        obtain ⟨hbound, hpresent, hearlier⟩ := head?_printedWithin hafter
        have hleads : pair.LeadsAt (isPrinted printed) after := by
          refine ⟨h, by omega, hpresent, fun earlier hlt => ?_⟩
          by_cases hfirst : earlier < pair.first
          · exact hbegins earlier hfirst
          · by_cases hstop : earlier < pair.stop
            · exact h.1 earlier hstop (Nat.le_of_not_lt hfirst)
            · exact hearlier earlier hlt (by omega)
        refine changeAt_eq_mapIdx fun index text => ?_
        have hplace : pair.LeadsAt (isPrinted printed) index ↔ after = index :=
          ⟨hleads.eq, fun heq => heq ▸ hleads⟩
        rw [dressed_of_fallsBack h, if_neg (hfollows index)]
        by_cases heq : after = index <;> simp [hplace, heq]
      · next hafter =>
        have hleads : ∀ index, ¬pair.LeadsAt (isPrinted printed) index := by
          rintro index ⟨-, hfirst, hpresent, -⟩
          have hstop : pair.stop ≤ index := by
            by_contra hlt
            rw [h.1 index (Nat.lt_of_not_le hlt) hfirst] at hpresent
            contradiction
          exact not_isPrinted_of_printedWithin (List.head?_eq_none_iff.1 hafter) index (by omega)
            (lt_length_of_isPrinted hpresent) hpresent
        refine (mapIdx_of_eq_self (fun index text => ?_) printed).symm
        rw [dressed_of_fallsBack h, if_neg (hleads index), if_neg (hfollows index)]
        simp

theorem attach_eq_dressed (hrange : pair.first ≤ pair.stop) :
    pair.attach printed = printed.mapIdx fun index slot =>
      slot.map (dressed [pair] (isPrinted printed) index) := by
  by_cases h : pair.FallsBack (isPrinted printed)
  case pos => exact attach_of_fallsBack hrange h
  case neg =>
    have hbrackets : pair.IsIdle (isPrinted printed) → pair.alternative = [] := by
      intro hidle
      by_contra halternative
      exact h ⟨hidle, halternative⟩
    rw [attach_eq_mapIdx hbrackets]
    congr 1
    funext index slot
    rw [funext (dressed_eq_bracketed (by simpa using h) index)]

-- Pairs that come after the end of a range are not found at a place before that end.
theorem filter_eq_nil_of_first_le {place : Pair → Prop} [DecidablePred place] {index : Nat}
    (hapart : ∀ later ∈ pairs, pair.stop ≤ later.first) (hstop : index < pair.stop)
    (hplace : ∀ later, place later → later.first ≤ index) : pairs.filter (place ·) = [] := by
  refine List.filter_eq_nil_iff.2 fun later hlater h => ?_
  have hfirst := hplace later (of_decide_eq_true h)
  have hlate := hapart later hlater
  omega

-- The pairs that come after another one put nothing between a field and what that
-- one has put around the field.
theorem dressed_cons (hrange : pair.first ≤ pair.stop)
    (hapart : ∀ later ∈ pairs, pair.stop ≤ later.first) (index : Nat) (text : Text) :
    dressed pairs present index (dressed [pair] present index text) =
      dressed (pair :: pairs) present index text := by
  by_cases hstop : index < pair.stop
  · have hopens : pairs.filter (·.OpensAt present index) = [] :=
      filter_eq_nil_of_first_le hapart hstop fun _ h => h.1.1
    have hcloses : pairs.filter (·.ClosesAt present index) = [] :=
      filter_eq_nil_of_first_le hapart hstop fun _ h => h.1.1
    have hleads : pairs.filter (·.LeadsAt present index) = [] :=
      filter_eq_nil_of_first_le hapart hstop fun _ h => h.2.1
    have hleadsPair : ¬pair.LeadsAt present index := by
      rintro ⟨hfalls, hfirst, hpresent, -⟩
      rw [hfalls.1 index hstop hfirst] at hpresent
      contradiction
    by_cases hfollowsPair : pair.FollowsAt present index
    · have hidle := hfollowsPair.1.1
      simp [dressed_eq, hopens, hcloses, hleads, hidle.not_opensAt, hidle.not_closesAt,
        hleadsPair, hfollowsPair]
    · by_cases hopensPair : pair.OpensAt present index <;>
        by_cases hclosesPair : pair.ClosesAt present index <;>
        simp [dressed_eq, hopens, hcloses, hleads, hopensPair, hclosesPair, hleadsPair,
          hfollowsPair]
  · have hopensPair : ¬pair.OpensAt present index := fun h => hstop h.1.2
    have hclosesPair : ¬pair.ClosesAt present index := fun h => hstop h.1.2
    have hfollowsPair : ¬pair.FollowsAt present index :=
      fun h => hstop (Nat.lt_of_lt_of_le h.2.1 hrange)
    by_cases hleadsPair : pair.LeadsAt present index <;>
      simp [dressed_eq, hopensPair, hclosesPair, hleadsPair, hfollowsPair]

theorem attachAll_eq_dressed (hrange : ∀ pair ∈ pairs, pair.first ≤ pair.stop)
    (hapart : pairs.Pairwise fun earlier later => earlier.stop ≤ later.first) :
    attachAll pairs printed = printed.mapIdx fun index slot =>
      slot.map (dressed pairs (isPrinted printed) index) := by
  induction pairs generalizing printed with
  | nil =>
    refine (mapIdx_of_eq_self (fun index text => ?_) printed).symm
    simp [dressed_eq]
  | cons pair rest ih =>
    rw [List.forall_mem_cons] at hrange
    obtain ⟨hpair, hrest⟩ := List.pairwise_cons.1 hapart
    have hattach : pair.attach printed = printed.mapIdx fun index slot =>
        slot.map (dressed [pair] (isPrinted printed) index) := attach_eq_dressed hrange.1
    have hpresent : isPrinted (pair.attach printed) = isPrinted printed := by
      rw [hattach, isPrinted_mapIdx]
    rw [attachAll, List.foldl_cons, ← attachAll, ih hrange.2 hrest, hpresent, hattach,
      List.mapIdx_mapIdx]
    congr 1
    funext index slot
    simp only [Function.comp, Option.map_map]
    congr 1
    funext text
    exact dressed_cons hrange.1 hpair index text

end Referencing.Template
