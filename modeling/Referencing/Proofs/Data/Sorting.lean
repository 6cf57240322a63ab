namespace Referencing

-- Sorting by a number puts smaller numbers first.
theorem pairwise_mergeSort_key {α : Type} (key : α → Nat) (items : List α) :
    (items.mergeSort fun left right => decide (key left ≤ key right)).Pairwise
      fun left right => key left ≤ key right := by
  have htrans : ∀ left middle right : α, decide (key left ≤ key middle) = true →
      decide (key middle ≤ key right) = true → decide (key left ≤ key right) = true := by
    intro left middle right hleft hright
    simp only [decide_eq_true_eq] at *
    omega
  have htotal : ∀ left right : α,
      (decide (key left ≤ key right) || decide (key right ≤ key left)) = true := by
    intro left right
    simp only [Bool.or_eq_true, decide_eq_true_eq]
    omega
  simpa using List.pairwise_mergeSort htrans htotal items

section Order

variable {α : Type} {list : List α} {first second : α → Bool}

-- What is of one kind comes before what is of another one.
theorem filter_append_filter (hexclusive : ∀ a ∈ list, first a = true → second a = false)
    (horder : list.Pairwise fun earlier later => second earlier = true → first later = false) :
    list.filter first ++ list.filter second = list.filter fun a => first a || second a := by
  induction list with
  | nil => rfl
  | cons head tail ih =>
    rw [List.forall_mem_cons] at hexclusive
    obtain ⟨hhead, htail⟩ := List.pairwise_cons.1 horder
    have ih := ih hexclusive.2 htail
    cases hfirst : first head with
    | true => simp [hfirst, hexclusive.1 hfirst, ih]
    | false =>
      cases hsecond : second head with
      | false => simp [hfirst, hsecond, ih]
      | true =>
        have hnone : tail.filter first = [] := by
          refine List.filter_eq_nil_iff.2 fun a ha => ?_
          simp [hhead a ha hsecond]
        rw [hnone, List.nil_append] at ih
        simp [hfirst, hsecond, hnone, ih]

-- What is found place by place is in the order of the list if the places are.
theorem flatMap_range_filter (place : α → Nat → Prop) [∀ a, DecidablePred (place a)]
    (hunique : ∀ a index other, place a index → place a other → index = other)
    (horder : list.Pairwise fun earlier later =>
      ∀ index other, place earlier index → place later other → index ≤ other) (length : Nat) :
    (List.range length).flatMap (fun index => list.filter (place · index)) =
      list.filter fun a => ∃ index < length, place a index := by
  induction length with
  | zero => simp
  | succ length ih =>
    rw [List.range_succ, List.flatMap_append, ih, List.flatMap_singleton, filter_append_filter]
    · refine List.filter_congr fun a _ => ?_
      rw [← Bool.decide_or]
      refine decide_eq_decide.2 ⟨?_, ?_⟩
      · rintro (⟨index, hlt, hplace⟩ | hplace)
        · exact ⟨index, by omega, hplace⟩
        · exact ⟨length, by omega, hplace⟩
      · rintro ⟨index, hlt, hplace⟩
        rcases Nat.lt_succ_iff_lt_or_eq.1 hlt with hlt | rfl
        · exact .inl ⟨index, hlt, hplace⟩
        · exact .inr hplace
    · simp only [decide_eq_true_eq, decide_eq_false_iff_not]
      rintro a - ⟨index, hlt, hplace⟩ hlast
      exact Nat.ne_of_lt hlt (hunique a _ _ hplace hlast)
    · simp only [decide_eq_true_eq, decide_eq_false_iff_not]
      refine horder.imp fun hle hlast => ?_
      rintro ⟨index, hlt, hplace⟩
      exact Nat.not_le_of_lt hlt (hle _ _ hlast hplace)

theorem flatMap_range_append {before after : Nat → List α} {start length : Nat}
    (hstart : start < length) (hbefore : ∀ index, index ≠ start → before index = [])
    (hafter : ∀ index < start, after index = []) :
    (List.range length).flatMap (fun index => before index ++ after index) =
      before start ++ (List.range length).flatMap after := by
  induction length with
  | zero => omega
  | succ length ih =>
    rw [List.range_succ, List.flatMap_append, List.flatMap_append, List.flatMap_singleton,
      List.flatMap_singleton]
    rcases Nat.lt_or_eq_of_le (Nat.le_of_lt_succ hstart) with hlt | rfl
    · rw [ih hlt, hbefore length (Nat.ne_of_gt hlt), List.nil_append, List.append_assoc]
    · have hnothing : ∀ index ∈ List.range start, before index ++ after index = [] := by
        intro index hindex
        have hlt := List.mem_range.1 hindex
        rw [hbefore index (Nat.ne_of_lt hlt), hafter index hlt, List.nil_append]
      have hnone : ∀ index ∈ List.range start, after index = [] :=
        fun index hindex => hafter index (List.mem_range.1 hindex)
      rw [List.flatMap_eq_nil_iff.2 hnothing, List.flatMap_eq_nil_iff.2 hnone]
      simp

theorem sublist_of_rank {rank : α → Nat} {targets : List α}
    (htargets : targets.Pairwise fun earlier later => rank earlier < rank later)
    (hlist : list.Pairwise fun earlier later => rank earlier ≤ rank later)
    (hsubset : targets ⊆ list) : targets.Sublist list := by
  induction list generalizing targets with
  | nil =>
    obtain rfl := List.subset_nil.1 hsubset
    exact .slnil
  | cons head tail ih =>
    obtain ⟨hhead, htail⟩ := List.pairwise_cons.1 hlist
    cases targets with
    | nil => exact List.nil_sublist _
    | cons target rest =>
      obtain ⟨htarget, hrest⟩ := List.pairwise_cons.1 htargets
      obtain ⟨hmem, hsubset⟩ := List.cons_subset.1 hsubset
      have htail_of_lt : ∀ a ∈ rest, rank head < rank a → a ∈ tail := by
        intro a ha hlt
        rcases List.mem_cons.1 (hsubset ha) with rfl | ha
        · exact absurd hlt (Nat.lt_irrefl _)
        · exact ha
      rcases List.mem_cons.1 hmem with rfl | hmem
      · exact (ih hrest htail fun a ha => htail_of_lt a ha (htarget a ha)).cons_cons _
      · refine (ih htargets htail (List.cons_subset.2 ⟨hmem, fun a ha => ?_⟩)).cons _
        exact htail_of_lt a ha (Nat.lt_of_le_of_lt (hhead target hmem) (htarget a ha))

end Order

end Referencing
