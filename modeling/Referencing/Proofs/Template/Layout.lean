import Mathlib.Data.Nat.Find
import Referencing.Proofs.Data.Sorting
import Referencing.Proofs.Template.Fallbacks

namespace Referencing.Template

open Text

variable {pair : Pair} {pairs : List Pair} {present : Nat → Bool} {printed : Printed}

-- What stands at the place of a field that is there.
def placedAt (pairs : List Pair) (printed : Printed) (index : Nat) : List Placed :=
  (printed[index]?.join).elim [] fun text =>
    (piecesAt pairs (isPrinted printed) index text).map (Placed.mk index)

-- The fields one after the other, each with what stands at its place.
def layout (pairs : List Pair) (printed : Printed) : List Placed :=
  (List.range printed.length).flatMap (placedAt pairs printed)

theorem mem_placedAt {index : Nat} {placed : Placed} :
    placed ∈ placedAt pairs printed index ↔ placed.index = index ∧
      ∃ text, printed[index]?.join = some text ∧
        placed.piece ∈ piecesAt pairs (isPrinted printed) index text := by
  rw [placedAt]
  cases printed[index]?.join with
  | none => simp
  | some text =>
    rw [Option.elim_some, List.mem_map]
    constructor
    · rintro ⟨piece, hpiece, rfl⟩
      exact ⟨rfl, text, rfl, hpiece⟩
    · rintro ⟨rfl, other, hother, hpiece⟩
      cases hother
      exact ⟨placed.piece, hpiece, rfl⟩

theorem flatMap_range_join {α : Type} (change : Option Text → List α) (printed : Printed) :
    (List.range printed.length).flatMap (fun index => change printed[index]?.join) =
      printed.flatMap change := by
  induction printed with
  | nil => rfl
  | cons slot rest ih =>
    rw [List.flatMap_cons, ← ih, List.length_cons, List.range_succ_eq_map, List.flatMap_cons,
      List.flatMap_map]
    rfl

theorem joined_dressed (pairs : List Pair) (printed : Printed) :
    joined (printed.mapIdx fun index slot =>
        slot.map (dressed pairs (isPrinted printed) index)) =
      (layout pairs printed).flatMap (·.piece.text) := by
  rw [joined, ← List.flatMap_def, ← flatMap_range_join, List.length_mapIdx, layout,
    List.flatMap_assoc]
  congr 1
  funext index
  rw [List.getElem?_mapIdx, placedAt]
  cases printed[index]? with
  | none => rfl
  | some slot =>
    cases slot with
    | none => rfl
    | some text => simp [dressed, List.flatMap_map]

theorem filterMap_piecesAt {α : Type} (select : Piece → Option α) (pairs : List Pair)
    (present : Nat → Bool) (index : Nat) (text : Text) :
    (piecesAt pairs present index text).filterMap select =
      (pairs.filter (·.OpensAt present index)).filterMap (fun pair => select (.opening pair)) ++
        ((pairs.filter (·.LeadsAt present index)).reverse.filterMap
            (fun pair => select (.leading pair)) ++
          ((select (.field text)).toList ++
            ((pairs.filter (·.ClosesAt present index)).filterMap
                (fun pair => select (.closing pair)) ++
              (pairs.filter (·.FollowsAt present index)).filterMap
                (fun pair => select (.following pair))))) := by
  have hfield : ∀ rest : List Piece, (Piece.field text :: rest).filterMap select =
      (select (.field text)).toList ++ rest.filterMap select := by
    intro rest
    rw [List.filterMap_cons]
    split
    · next h => rw [h, Option.toList_none, List.nil_append]
    · next h => rw [h, Option.toList_some, List.singleton_append]
  simp only [piecesAt, List.filterMap_append, List.filterMap_map, hfield, Function.comp_def]

-- What is found of one kind among the pieces is found place by place.
theorem filterMap_layout {α : Type} {select : Piece → Option α} {chosen : Nat → List α}
    (hsome : ∀ index text, printed[index]?.join = some text →
      (piecesAt pairs (isPrinted printed) index text).filterMap select = chosen index)
    (hnone : ∀ index, isPrinted printed index = false → chosen index = []) :
    (layout pairs printed).filterMap (select ·.piece) =
      (List.range printed.length).flatMap chosen := by
  rw [layout, List.filterMap_flatMap]
  congr 1
  funext index
  rw [placedAt]
  cases hslot : printed[index]?.join with
  | none =>
    rw [hnone index (by rw [isPrinted, hslot]; rfl)]
    rfl
  | some text =>
    rw [← hsome index text hslot, Option.elim_some, List.filterMap_map]
    rfl

theorem Pair.exists_followsAt (h : pair.FallsBack (isPrinted printed))
    (hbegins : ¬pair.Begins (isPrinted printed)) :
    ∃ index < printed.length, pair.FollowsAt (isPrinted printed) index := by
  cases hlast : (printedWithin 0 pair.first printed).getLast? with
  | none =>
    refine absurd (fun earlier hearlier => ?_) hbegins
    by_contra hne
    exact not_isPrinted_of_printedWithin (List.getLast?_eq_none_iff.1 hlast) earlier
      (Nat.zero_le _) hearlier (eq_true_of_ne_false hne)
  | some index =>
    obtain ⟨⟨-, hfirst⟩, hpresent, hlater⟩ := getLast?_printedWithin hlast
    exact ⟨index, lt_length_of_isPrinted hpresent, h, hfirst, hpresent, hlater⟩

-- There is one field to put the alternatives in front of.
theorem Pair.leadsAt_iff {start : Nat} (hstart : isPrinted printed start = true)
    (hfirst : ∀ earlier < start, isPrinted printed earlier = false) :
    pair.LeadsAt (isPrinted printed) start ↔
      pair.FallsBack (isPrinted printed) ∧ pair.Begins (isPrinted printed) := by
  refine ⟨fun h => ⟨h.1, h.begins⟩, fun ⟨hfalls, hbegins⟩ => ⟨hfalls, ?_, hstart, hfirst⟩⟩
  by_contra hlt
  rw [hbegins start (Nat.lt_of_not_le hlt)] at hstart
  contradiction

theorem filter_eq_nil_of_absent (place : Pair → Nat → Prop) [∀ pair, DecidablePred (place pair)]
    (hplace : ∀ pair index, place pair index → isPrinted printed index = true) (index : Nat)
    (habsent : isPrinted printed index = false) : pairs.filter (place · index) = [] := by
  refine List.filter_eq_nil_iff.2 fun pair _ h => ?_
  rw [hplace pair index (of_decide_eq_true h)] at habsent
  contradiction

theorem filterMap_field_layout (pairs : List Pair) (printed : Printed) :
    (layout pairs printed).filterMap (·.piece.field?) = printed.reduceOption := by
  have hplaces : (layout pairs printed).filterMap (·.piece.field?) =
      (List.range printed.length).flatMap fun index => (printed[index]?.join).toList := by
    refine filterMap_layout (fun index text htext => ?_) fun index habsent => ?_
    · simp [filterMap_piecesAt, Piece.field?, htext]
    · rw [isPrinted, Option.isSome_eq_false_iff] at habsent
      rw [Option.isNone_iff_eq_none.1 habsent, Option.toList_none]
  rw [hplaces, flatMap_range_join Option.toList]
  exact (List.filterMap_eq_flatMap_toList id printed).symm

-- Each text of a pair around something stands once, in the order of the pairs.
theorem filterMap_bracket_layout (place : Pair → Nat → Prop) [∀ pair, DecidablePred (place pair)]
    {select : Piece → Option Pair}
    (hapart : pairs.Pairwise fun earlier later => earlier.stop ≤ later.first)
    (hselect : ∀ index text, (piecesAt pairs (isPrinted printed) index text).filterMap select =
      pairs.filter (place · index))
    (hunique : ∀ pair index other, place pair index → place pair other → index = other)
    (hplace : ∀ pair index, place pair index →
      pair.Encloses index ∧ isPrinted printed index = true)
    (hbusy : ∀ pair : Pair, ¬pair.IsIdle (isPrinted printed) → ∃ index, place pair index) :
    (layout pairs printed).filterMap (select ·.piece) =
      pairs.filter fun pair => ¬pair.IsIdle (isPrinted printed) := by
  have hplaces : (layout pairs printed).filterMap (select ·.piece) =
      (List.range printed.length).flatMap fun index => pairs.filter (place · index) :=
    filterMap_layout (fun index text _ => hselect index text)
      (filter_eq_nil_of_absent place fun pair index h => (hplace pair index h).2)
  have horder : pairs.Pairwise fun earlier later =>
      ∀ index other, place earlier index → place later other → index ≤ other := by
    refine hapart.imp fun hstop index other hindex hother => ?_
    have hearlier := (hplace _ _ hindex).1.2
    have hlater := (hplace _ _ hother).1.1
    omega
  rw [hplaces, flatMap_range_filter place hunique horder]
  refine List.filter_congr fun pair _ => decide_eq_decide.2 ⟨?_, fun h => ?_⟩
  · rintro ⟨index, -, hindex⟩ hidle
    obtain ⟨⟨hfirst, hstop⟩, hpresent⟩ := hplace _ _ hindex
    rw [hidle index hstop hfirst] at hpresent
    contradiction
  · obtain ⟨index, hindex⟩ := hbusy pair h
    exact ⟨index, lt_length_of_isPrinted (hplace _ _ hindex).2, hindex⟩

theorem filterMap_opening_layout
    (hapart : pairs.Pairwise fun earlier later => earlier.stop ≤ later.first)
    (printed : Printed) :
    (layout pairs printed).filterMap (·.piece.opening?) =
      pairs.filter fun pair => ¬pair.IsIdle (isPrinted printed) := by
  refine filterMap_bracket_layout (·.OpensAt (isPrinted printed)) hapart
    (fun index text => by simp [filterMap_piecesAt, Piece.opening?]) (fun _ _ _ => Pair.OpensAt.eq)
    (fun _ _ h => ⟨h.1, h.2.1⟩) fun pair h => ?_
  obtain ⟨start, -, hstart, -⟩ := exists_ends h
  exact ⟨start, opensAt_head? hstart⟩

theorem filterMap_closing_layout
    (hapart : pairs.Pairwise fun earlier later => earlier.stop ≤ later.first)
    (printed : Printed) :
    (layout pairs printed).filterMap (·.piece.closing?) =
      pairs.filter fun pair => ¬pair.IsIdle (isPrinted printed) := by
  refine filterMap_bracket_layout (·.ClosesAt (isPrinted printed)) hapart
    (fun index text => by simp [filterMap_piecesAt, Piece.closing?]) (fun _ _ _ => Pair.ClosesAt.eq)
    (fun _ _ h => ⟨h.1, h.2.1⟩) fun pair h => ?_
  obtain ⟨-, finish, -, hfinish⟩ := exists_ends h
  exact ⟨finish, closesAt_getLast? hfinish⟩

-- The first field that is there.
theorem exists_first (h : ∃ index, present index = true) :
    ∃ start, present start = true ∧ ∀ earlier < start, present earlier = false := by
  refine ⟨Nat.find h, Nat.find_spec h, fun earlier hlt => ?_⟩
  exact eq_false_of_ne_true (Nat.find_min h hlt)

-- The pairs whose alternatives are printed before any field.
def leadingPairs (pairs : List Pair) (present : Nat → Bool) : List Pair :=
  pairs.filter fun pair => pair.FallsBack present ∧ pair.Begins present

def laterPairs (pairs : List Pair) (present : Nat → Bool) : List Pair :=
  pairs.filter fun pair => pair.FallsBack present ∧ ¬pair.Begins present

section Ranges

variable (hrange : ∀ pair ∈ pairs, pair.first ≤ pair.stop)
  (hapart : pairs.Pairwise fun earlier later => earlier.stop ≤ later.first)

include hrange hapart

theorem leadingPairs_append_laterPairs (present : Nat → Bool) :
    leadingPairs pairs present ++ laterPairs pairs present =
      pairs.filter fun pair => pair.FallsBack present := by
  rw [leadingPairs, laterPairs, filter_append_filter]
  · refine List.filter_congr fun pair _ => ?_
    by_cases hfalls : pair.FallsBack present <;> by_cases hbegins : pair.Begins present <;>
      simp [hfalls, hbegins]
  · simp only [decide_eq_true_eq, decide_eq_false_iff_not]
    exact fun pair _ hleads hlater => hlater.2 hleads.2
  · simp only [decide_eq_true_eq, decide_eq_false_iff_not]
    refine List.Pairwise.imp_of_mem (fun {earlier later} hearlier _ hstop h hlater => ?_) hapart
    refine h.2 fun index hindex => hlater.2 index ?_
    have hle := hrange earlier hearlier
    omega

-- The alternatives before all fields come one in front of the other, the ones behind
-- fields one behind the other.
theorem filterMap_fallback_layout (h : ∃ index, isPrinted printed index = true) :
    (layout pairs printed).filterMap (·.piece.fallback?) =
      (leadingPairs pairs (isPrinted printed)).reverse ++ laterPairs pairs (isPrinted printed) := by
  obtain ⟨start, hstart, hfirst⟩ := exists_first h
  have hplaces : (layout pairs printed).filterMap (·.piece.fallback?) =
      (List.range printed.length).flatMap fun index =>
        (pairs.filter fun pair => pair.LeadsAt (isPrinted printed) index).reverse ++
          pairs.filter fun pair => pair.FollowsAt (isPrinted printed) index := by
    refine filterMap_layout (fun index text _ => by simp [filterMap_piecesAt, Piece.fallback?])
      fun index habsent => ?_
    rw [filter_eq_nil_of_absent (·.LeadsAt (isPrinted printed)) (fun _ _ h => h.2.2.1) index habsent,
      filter_eq_nil_of_absent (·.FollowsAt (isPrinted printed)) (fun _ _ h => h.2.2.1) index habsent]
    rfl
  have hleads : ∀ index, index ≠ start →
      (pairs.filter fun pair => pair.LeadsAt (isPrinted printed) index).reverse = [] := by
    intro index hne
    rw [List.reverse_eq_nil_iff, List.filter_eq_nil_iff]
    intro pair _ h
    have hleads := of_decide_eq_true h
    exact hne (hleads.eq ((Pair.leadsAt_iff hstart hfirst).2 ⟨hleads.1, hleads.begins⟩))
  have horder : pairs.Pairwise fun earlier later => ∀ index other,
      earlier.FollowsAt (isPrinted printed) index → later.FollowsAt (isPrinted printed) other →
      index ≤ other := by
    refine List.Pairwise.imp_of_mem (fun {earlier later} hearlier _ hstop => ?_) hapart
    rintro index other ⟨-, hindex, hpresent, -⟩ ⟨-, -, -, hlater⟩
    by_contra hlt
    have hle := hrange earlier hearlier
    rw [hlater index (by omega) (Nat.lt_of_not_le hlt)] at hpresent
    contradiction
  have hfollows : (List.range printed.length).flatMap
      (fun index => pairs.filter fun pair => pair.FollowsAt (isPrinted printed) index) =
      pairs.filter fun pair =>
        ∃ index < printed.length, pair.FollowsAt (isPrinted printed) index :=
    flatMap_range_filter (fun pair : Pair => pair.FollowsAt (isPrinted printed))
      (fun _ _ _ => Pair.FollowsAt.eq) horder printed.length
  have hleading : (pairs.filter fun pair => pair.LeadsAt (isPrinted printed) start) =
      leadingPairs pairs (isPrinted printed) :=
    List.filter_congr fun pair _ => decide_eq_decide.2 (Pair.leadsAt_iff hstart hfirst)
  have hlater : (pairs.filter fun pair =>
      ∃ index < printed.length, pair.FollowsAt (isPrinted printed) index) =
      laterPairs pairs (isPrinted printed) := by
    refine List.filter_congr fun pair _ => decide_eq_decide.2 ⟨?_, fun ⟨hfalls, hbegins⟩ =>
      Pair.exists_followsAt hfalls hbegins⟩
    rintro ⟨index, -, hindex⟩
    exact ⟨hindex.1, hindex.not_begins⟩
  rw [hplaces, flatMap_range_append (lt_length_of_isPrinted hstart) hleads fun index hlt =>
      filter_eq_nil_of_absent (·.FollowsAt (isPrinted printed)) (fun _ _ h => h.2.2.1) index
        (hfirst index hlt), hfollows, hleading, hlater]

end Ranges

theorem mem_layout {placed : Placed} :
    placed ∈ layout pairs printed ↔ ∃ text, printed[placed.index]?.join = some text ∧
      placed.piece ∈ piecesAt pairs (isPrinted printed) placed.index text := by
  simp only [layout, List.mem_flatMap, List.mem_range, mem_placedAt]
  constructor
  · rintro ⟨-, -, rfl, h⟩
    exact h
  · rintro ⟨text, htext, hpiece⟩
    have hlength := lt_length_of_isPrinted (by rw [isPrinted, htext]; rfl)
    exact ⟨placed.index, hlength, rfl, text, htext, hpiece⟩

theorem mem_layout_iff {index : Nat} {piece : Piece} {place : Prop}
    (hpiece : ∀ text, piece ∈ piecesAt pairs (isPrinted printed) index text ↔ place)
    (hplace : place → isPrinted printed index = true) :
    ⟨index, piece⟩ ∈ layout pairs printed ↔ place := by
  simp only [mem_layout, hpiece]
  constructor
  · rintro ⟨-, -, h⟩
    exact h
  · intro h
    obtain ⟨text, htext⟩ := Option.isSome_iff_exists.1 (hplace h)
    exact ⟨text, htext, h⟩

theorem opening_mem_layout {index : Nat} :
    ⟨index, .opening pair⟩ ∈ layout pairs printed ↔
      pair ∈ pairs ∧ pair.OpensAt (isPrinted printed) index :=
  mem_layout_iff (fun text => by simp [piecesAt]) fun h => h.2.2.1

theorem closing_mem_layout {index : Nat} :
    ⟨index, .closing pair⟩ ∈ layout pairs printed ↔
      pair ∈ pairs ∧ pair.ClosesAt (isPrinted printed) index :=
  mem_layout_iff (fun text => by simp [piecesAt]) fun h => h.2.2.1

theorem leading_mem_layout {index : Nat} :
    ⟨index, .leading pair⟩ ∈ layout pairs printed ↔
      pair ∈ pairs ∧ pair.LeadsAt (isPrinted printed) index :=
  mem_layout_iff (fun text => by simp [piecesAt]) fun h => h.2.2.2.1

theorem following_mem_layout {index : Nat} :
    ⟨index, .following pair⟩ ∈ layout pairs printed ↔
      pair ∈ pairs ∧ pair.FollowsAt (isPrinted printed) index :=
  mem_layout_iff (fun text => by simp [piecesAt]) fun h => h.2.2.2.1

theorem pairwise_piecesAt (pairs : List Pair) (present : Nat → Bool) (index : Nat) (text : Text) :
    (piecesAt pairs present index text).Pairwise fun earlier later =>
      earlier.rank ≤ later.rank := by
  have hranks : ((piecesAt pairs present index text).map Piece.rank).Pairwise (· ≤ ·) := by
    simp only [piecesAt, List.map_append, List.map_cons, List.map_map, Function.comp_def,
      Piece.rank, List.map_const']
    simp only [List.pairwise_append, List.pairwise_cons, List.pairwise_replicate, List.mem_append,
      List.mem_cons, List.mem_replicate]
    grind
  exact List.pairwise_map.1 hranks

theorem Piece.rank_lt (piece : Piece) : piece.rank < 5 := by
  cases piece <;> simp [rank]

theorem pairwise_layout (pairs : List Pair) (printed : Printed) :
    (layout pairs printed).Pairwise fun earlier later => earlier.rank ≤ later.rank := by
  rw [layout, List.pairwise_flatMap]
  constructor
  · intro index _
    rw [placedAt]
    cases printed[index]?.join with
    | none => exact .nil
    | some text =>
      rw [Option.elim_some, List.pairwise_map]
      exact (pairwise_piecesAt _ _ _ _).imp fun hle => Nat.add_le_add_left hle _
  · refine List.pairwise_lt_range.imp fun {index other} hlt earlier hearlier later hlater => ?_
    have hrank := earlier.piece.rank_lt
    rw [Placed.rank, Placed.rank, (mem_placedAt.1 hearlier).1, (mem_placedAt.1 hlater).1]
    omega

end Referencing.Template
