import Referencing.Proofs.Template.Layout

namespace Referencing.Template

open Text

variable {pair : Pair} {pairs : List Pair} {present : Nat → Bool} {printed : Printed}

-- The texts of a pair with another piece in between.
def around (pair : Pair) (start : Nat) (between : Placed) (finish : Nat) : List Placed :=
  [⟨start, .opening pair⟩, between, ⟨finish, .closing pair⟩]

theorem rank_of_sublist {start finish : Nat} {between : Placed}
    (h : (around pair start between finish).Sublist (layout pairs printed)) :
    5 * start ≤ between.rank ∧ between.rank ≤ 5 * finish + 3 := by
  have hranks := (pairwise_layout pairs printed).sublist h
  simp only [around, List.pairwise_cons, List.mem_cons, forall_eq_or_imp] at hranks
  exact ⟨hranks.1.1, hranks.2.1.1⟩

theorem mem_of_sublist {start finish : Nat} {between : Placed}
    (h : (around pair start between finish).Sublist (layout pairs printed)) :
    (pair ∈ pairs ∧ pair.OpensAt (isPrinted printed) start ∧
      pair.ClosesAt (isPrinted printed) finish) ∧ between ∈ layout pairs printed := by
  have hsubset := h.subset
  simp only [around, List.cons_subset, List.nil_subset, and_true] at hsubset
  obtain ⟨hopening, hbetween, hclosing⟩ := hsubset
  obtain ⟨hmem, hopens⟩ := opening_mem_layout.1 hopening
  exact ⟨⟨hmem, hopens, (closing_mem_layout.1 hclosing).2⟩, hbetween⟩

-- What is printed for a pair behind a field is behind what closes there.
theorem not_sublist_following (hrange : ∀ pair ∈ pairs, pair.first ≤ pair.stop)
    (hapart : pairs.Pairwise fun earlier later => earlier.stop ≤ later.first) {other : Pair}
    {start place finish : Nat} :
    ¬(around pair start ⟨place, .following other⟩ finish).Sublist (layout pairs printed) := by
  intro h
  obtain ⟨⟨hpair, hopens, hcloses⟩, hmem⟩ := mem_of_sublist h
  obtain ⟨hother, hfalls, hfirst, -, hlater⟩ := following_mem_layout.1 hmem
  obtain ⟨hstart, hfinish⟩ := rank_of_sublist h
  simp only [Placed.rank, Piece.rank] at hstart hfinish
  have hne : pair ≠ other := fun heq => (heq ▸ hfalls.1).not_opensAt start hopens
  have hbounds := hrange other hother
  have hbegin := hopens.1.1
  have hend := hcloses.1.2
  have hordered : pair.stop ≤ other.first ∨ other.stop ≤ pair.first := by
    have hsides : pairs.Pairwise fun left right =>
        left.stop ≤ right.first ∨ right.stop ≤ left.first := hapart.imp .inl
    have : Std.Symm fun left right : Pair =>
        left.stop ≤ right.first ∨ right.stop ≤ left.first := ⟨fun _ _ => Or.symm⟩
    exact hsides.forall hpair hother hne
  rcases hordered with hle | hle
  · have hpresent := hcloses.2.1
    rw [hlater finish (by omega) (by omega)] at hpresent
    contradiction
  · omega

-- What is printed for a pair in front of the first field is between the texts of
-- another pair if that one begins with this field.
theorem sublist_leading_iff {other : Pair} {start place finish : Nat} :
    (around pair start ⟨place, .leading other⟩ finish).Sublist (layout pairs printed) ↔
      (pair ∈ pairs ∧ pair.OpensAt (isPrinted printed) start ∧
        pair.ClosesAt (isPrinted printed) finish) ∧
      (other ∈ pairs ∧ other.LeadsAt (isPrinted printed) place) ∧ start = place := by
  constructor
  · intro h
    obtain ⟨hpair, hmem⟩ := mem_of_sublist h
    obtain ⟨hother, hleads⟩ := leading_mem_layout.1 hmem
    refine ⟨hpair, ⟨hother, hleads⟩, ?_⟩
    obtain ⟨hstart, -⟩ := rank_of_sublist h
    simp only [Placed.rank, Piece.rank] at hstart
    have hle : place ≤ start := by
      by_contra hlt
      have hpresent := hpair.2.1.2.1
      rw [hleads.2.2.2 start (Nat.lt_of_not_le hlt)] at hpresent
      contradiction
    omega
  · rintro ⟨⟨hpair, hopens, hcloses⟩, ⟨hother, hleads⟩, rfl⟩
    have hle := hopens.le_closesAt hcloses
    refine sublist_of_rank ?_ (pairwise_layout pairs printed) ?_
    · simp only [around, List.pairwise_cons, List.mem_cons, List.not_mem_nil, or_false,
        forall_eq_or_imp, forall_eq, Placed.rank, Piece.rank]
      exact ⟨by omega, by omega, by simp⟩
    · simp only [around, List.cons_subset, List.nil_subset, and_true]
      exact ⟨opening_mem_layout.2 ⟨hpair, hopens⟩, leading_mem_layout.2 ⟨hother, hleads⟩,
        closing_mem_layout.2 ⟨hpair, hcloses⟩⟩

-- What is asked of the alternatives that are printed: they come in the order of
-- their pairs, and none of them comes between the texts of another pair.
structure KeepsAlternatives (pairs : List Pair) (present : Nat → Bool) (pieces : List Placed) :
    Prop where
  inOrder : (pieces.filterMap (·.piece.fallback?)).map (·.alternative) =
    (pairs.filter fun pair => pair.FallsBack present).map (·.alternative)
  outside : ∀ pair start between finish, between.piece.fallback?.isSome = true →
    ¬(around pair start between finish).Sublist pieces

theorem exists_sublist_leading_iff (h : ∃ index, isPrinted printed index = true) :
    (∃ pair start place other finish,
      (around pair start ⟨place, .leading other⟩ finish).Sublist (layout pairs printed)) ↔
      leadingPairs pairs (isPrinted printed) ≠ [] ∧
        ∃ pair ∈ pairs, ¬pair.IsIdle (isPrinted printed) ∧ pair.Begins (isPrinted printed) := by
  obtain ⟨first, hpresent, hfirst⟩ := exists_first h
  constructor
  · rintro ⟨pair, start, place, other, finish, hsublist⟩
    obtain ⟨⟨hpair, hopens, -⟩, ⟨hother, hleads⟩, rfl⟩ := sublist_leading_iff.1 hsublist
    refine ⟨List.ne_nil_of_mem (List.mem_filter.2 ⟨hother, ?_⟩), pair, hpair,
      fun hidle => hidle.not_opensAt start hopens, fun earlier hearlier => ?_⟩
    · exact decide_eq_true ⟨hleads.1, hleads.begins⟩
    · exact hleads.2.2.2 earlier (Nat.lt_of_lt_of_le hearlier hopens.1.1)
  · rintro ⟨hleading, pair, hpair, hbusy, hbegins⟩
    obtain ⟨other, hother⟩ := List.exists_mem_of_ne_nil _ hleading
    obtain ⟨hmem, hcond⟩ := List.mem_filter.1 hother
    have hleads := (Pair.leadsAt_iff hpresent hfirst).2 (of_decide_eq_true hcond)
    obtain ⟨start, finish, hstart, hfinish⟩ := exists_ends hbusy
    have hopens := opensAt_head? hstart
    have heq : start = first := by
      rcases Nat.lt_trichotomy start first with hlt | heq | hlt
      · have habsent := hfirst start hlt
        rw [hopens.2.1] at habsent
        contradiction
      · exact heq
      · have hinside : pair.first ≤ first := by
          by_contra hlt
          rw [hbegins first (Nat.lt_of_not_le hlt)] at hpresent
          contradiction
        rw [hopens.2.2 first hlt hinside] at hpresent
        contradiction
    exact ⟨pair, start, first, other, finish, sublist_leading_iff.2
      ⟨⟨hpair, hopens, closesAt_getLast? hfinish⟩, ⟨hmem, hleads⟩, heq⟩⟩

theorem outside_layout_iff (hrange : ∀ pair ∈ pairs, pair.first ≤ pair.stop)
    (hapart : pairs.Pairwise fun earlier later => earlier.stop ≤ later.first)
    (h : ∃ index, isPrinted printed index = true) :
    (∀ pair start between finish, between.piece.fallback?.isSome = true →
      ¬(around pair start between finish).Sublist (layout pairs printed)) ↔
      leadingPairs pairs (isPrinted printed) = [] ∨
        ∀ pair ∈ pairs, pair.Begins (isPrinted printed) → pair.IsIdle (isPrinted printed) := by
  constructor
  · intro houtside
    by_contra hne
    push Not at hne
    obtain ⟨hleading, pair, hpair, hbegins, hbusy⟩ := hne
    obtain ⟨pair, start, place, other, finish, hsublist⟩ :=
      (exists_sublist_leading_iff h).2 ⟨hleading, pair, hpair, hbusy, hbegins⟩
    exact houtside pair start _ finish rfl hsublist
  · rintro hidle pair start ⟨place, piece⟩ finish hsome hsublist
    cases piece with
    | opening _ => contradiction
    | field _ => contradiction
    | closing _ => contradiction
    | following other => exact not_sublist_following hrange hapart hsublist
    | leading other =>
      obtain ⟨hleading, pair, hpair, hbusy, hbegins⟩ :=
        (exists_sublist_leading_iff h).1 ⟨pair, start, place, other, finish, hsublist⟩
      rcases hidle with hnil | hidle
      · exact hleading hnil
      · exact hbusy (hidle pair hpair hbegins)

theorem keepsAlternatives_layout_iff (hrange : ∀ pair ∈ pairs, pair.first ≤ pair.stop)
    (hapart : pairs.Pairwise fun earlier later => earlier.stop ≤ later.first)
    (h : ∃ index, isPrinted printed index = true) :
    KeepsAlternatives pairs (isPrinted printed) (layout pairs printed) ↔
      ((leadingPairs pairs (isPrinted printed)).map (·.alternative)).reverse =
        (leadingPairs pairs (isPrinted printed)).map (·.alternative) ∧
      (leadingPairs pairs (isPrinted printed) = [] ∨
        ∀ pair ∈ pairs, pair.Begins (isPrinted printed) → pair.IsIdle (isPrinted printed)) := by
  have hinOrder : ((layout pairs printed).filterMap (·.piece.fallback?)).map (·.alternative) =
      (pairs.filter fun pair => pair.FallsBack (isPrinted printed)).map (·.alternative) ↔
      ((leadingPairs pairs (isPrinted printed)).map (·.alternative)).reverse =
        (leadingPairs pairs (isPrinted printed)).map (·.alternative) := by
    rw [filterMap_fallback_layout hrange hapart h, ← leadingPairs_append_laterPairs hrange hapart,
      List.map_append, List.map_append, List.append_cancel_right_eq, List.map_reverse]
  have houtside := outside_layout_iff hrange hapart h
  exact ⟨fun hkeeps => ⟨hinOrder.1 hkeeps.inOrder, houtside.1 hkeeps.outside⟩,
    fun hkeeps => ⟨hinOrder.2 hkeeps.1, houtside.2 hkeeps.2⟩⟩

-- How a body is made up of pieces.
structure IsLaidOut (template : Template) (item : Item) (plurals : Plurals) (body : Text)
    (pieces : List Placed) : Prop where
  text : body = pieces.flatMap (·.piece.text)
  -- The fields that have a value, in the order of the template.
  fields : pieces.filterMap (·.piece.field?) = (fieldTexts template item plurals).reduceOption
  -- The pairs around something, each text of them once.
  openings : pieces.filterMap (·.piece.opening?) =
    template.pairs.filter fun pair => ¬pair.IsIdle (isPresent template item)
  closings : pieces.filterMap (·.piece.closing?) =
    template.pairs.filter fun pair => ¬pair.IsIdle (isPresent template item)
  -- The pairs around nothing that have an alternative.
  fallbacks : (pieces.filterMap (·.piece.fallback?)).Perm
    (template.pairs.filter fun pair => pair.FallsBack (isPresent template item))

-- The alternatives of the pairs around nothing are printed behind the last field
-- before them, in order and outside of every other pair. Only those with no field
-- before them come in front of the first field, the last one first, and between the
-- texts of a pair that begins there.
theorem body_compile_alternatives (source : Text) (names : FieldSet) (item : Item)
    (plurals : Plurals) (h : ∃ index, isPresent (compile source names) item index = true) :
    let template := compile source names
    let present := isPresent template item
    let pieces := layout template.pairs (fieldTexts template item plurals)
    let leading := leadingPairs template.pairs present
    let later := laterPairs template.pairs present
    IsLaidOut template item plurals (body template item plurals) pieces ∧
      (template.pairs.filter fun pair => pair.FallsBack present) = leading ++ later ∧
      pieces.filterMap (·.piece.fallback?) = leading.reverse ++ later ∧
      (KeepsAlternatives template.pairs present pieces ↔
        (leading.map (·.alternative)).reverse = leading.map (·.alternative) ∧
          (leading = [] ∨ ∀ pair ∈ template.pairs, pair.Begins present → pair.IsIdle present)) := by
  intro template present pieces leading later
  have hpresent : isPrinted (fieldTexts template item plurals) = present :=
    isPrinted_fieldTexts template item plurals
  have horder := inOrder_compile source names
  have hapart : template.pairs.Pairwise fun earlier later => earlier.stop ≤ later.first :=
    horder.pairwise
  have hrange : ∀ pair ∈ template.pairs, pair.first ≤ pair.stop :=
    fun pair hpair => (horder.first_le_stop pair hpair).2
  have hprinted : ∃ index, isPrinted (fieldTexts template item plurals) index = true := by
    rw [hpresent]
    exact h
  have hsplit := leadingPairs_append_laterPairs hrange hapart present
  have hfallbacks := filterMap_fallback_layout hrange hapart hprinted
  have hkeeps := keepsAlternatives_layout_iff hrange hapart hprinted
  have hopenings := filterMap_opening_layout hapart (fieldTexts template item plurals)
  have hclosings := filterMap_closing_layout hapart (fieldTexts template item plurals)
  rw [hpresent] at hfallbacks hkeeps hopenings hclosings
  refine ⟨⟨?_, filterMap_field_layout _ _, hopenings, hclosings, ?_⟩, hsplit.symm, hfallbacks,
    hkeeps⟩
  · have htext : body template item plurals =
        joined (attachAll template.pairs (fieldTexts template item plurals)) := rfl
    rw [htext, attachAll_eq_dressed hrange hapart, joined_dressed]
  · rw [hfallbacks, ← hsplit]
    exact (List.reverse_perm _).append_right _

-- The author is there, so what is printed for the missing year has its place.
theorem alternative_after_author :
    let names := FieldSet.ofList (["creator1", "year1", "pages"].map String.toList)
    let template := compile "creator1| (|year1|%)% (n.d.)%|: pages".toList names
    let item := Item.ofList [("creator1".toList, "Doe".toList), ("pages".toList, ['4'])]
    let present := isPresent template item
    let pieces := layout template.pairs (fieldTexts template item .empty)
    (∃ index, present index = true) ∧ leadingPairs template.pairs present = [] ∧
      (template.pairs.filter fun pair => pair.FallsBack present).map (·.alternative) =
        [" (n.d.)".toList] ∧
      "Doe (n.d.): 4".toList = pieces.flatMap (·.piece.text) ∧
      KeepsAlternatives template.pairs present pieces := by
  intro names template item present pieces
  have hpresent : ∃ index, present index = true := ⟨0, by decide +kernel⟩
  have hleading : leadingPairs template.pairs present = [] := by decide +kernel
  have hbody : body template item .empty = "Doe (n.d.): 4".toList := by decide +kernel
  obtain ⟨hlaid, -, -, hkeeps⟩ := body_compile_alternatives _ names item .empty hpresent
  refine ⟨hpresent, hleading, by decide +kernel, hbody.symm.trans hlaid.text, hkeeps.2 ⟨?_, ?_⟩⟩
  · rw [hleading]
    rfl
  · exact .inl hleading

-- Two alternatives before the first field change places, and the title's brackets
-- are put around them.
theorem alternatives_reversed_in_brackets :
    let names := FieldSet.ofList
      (["creator1", "year1", "publisherLocation", "title", "pages"].map String.toList)
    let template := compile
      "creator1|%, %n.d.; %|year1|; |%, %s.l.; %|publisherLocation|; |(|title|)|: pages".toList names
    let item := Item.ofList [("title".toList, "Essays".toList), ("pages".toList, ['4'])]
    let present := isPresent template item
    (∃ index, present index = true) ∧
      (template.pairs.filter fun pair => pair.FallsBack present).map (·.alternative) =
        ["n.d.; ", "s.l.; "].map String.toList ∧
      body template item .empty = "(s.l.; n.d.; Essays): 4".toList ∧
      (∀ before between after, body template item .empty ≠
        before ++ "n.d.; ".toList ++ between ++ "s.l.; ".toList ++ after) ∧
      ¬KeepsAlternatives template.pairs present
        (layout template.pairs (fieldTexts template item .empty)) := by
  intro names template item present
  have hbody : body template item .empty = "(s.l.; n.d.; Essays): 4".toList := by decide +kernel
  refine ⟨⟨3, by decide +kernel⟩, by decide +kernel, hbody, ?_, ?_⟩
  · intro before between after heq
    have hfirst : ['n'].Sublist "n.d.; ".toList := by decide
    have hsecond : ['l'].Sublist "s.l.; ".toList := by decide
    have hboth : ['n', 'l'].Sublist (before ++ "n.d.; ".toList ++ between ++ "s.l.; ".toList) :=
      ((hfirst.trans (List.sublist_append_right before _)).trans
        (List.sublist_append_left _ between)).append hsecond
    have hbody' := hboth.trans (List.sublist_append_left _ after)
    rw [← heq, hbody] at hbody'
    exact absurd hbody' (by decide)
  · intro hkeeps
    exact absurd hkeeps.inOrder (by decide +kernel)

end Referencing.Template
