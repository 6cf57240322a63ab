namespace Referencing.Text

-- Membership in a sorted list of disjoint closed ranges. The search stops at
-- the first range that begins after the number.
def within : List (Nat × Nat) → Nat → Bool
  | [], _ => false
  | (first, last) :: rest, n => first ≤ n && (n ≤ last || within rest n)

-- The run of a sorted list that holds the number. A run holds every `step`-th
-- number from its first to its last.
def runOf : List (Nat × Nat × Nat) → Nat → Option (Nat × Nat × Nat)
  | [], _ => none
  | (first, last, step) :: rest, n =>
    if n < first then none
    else if n ≤ last && (n - first) % step == 0 then some (first, last, step)
    else runOf rest n

theorem exists_range_of_within {ranges : List (Nat × Nat)} {n : Nat} (h : within ranges n) :
    ∃ range ∈ ranges, range.1 ≤ n ∧ n ≤ range.2 := by
  induction ranges with
  | nil => simp [within] at h
  | cons range rest ih =>
    simp only [within, Bool.and_eq_true, Bool.or_eq_true, decide_eq_true_eq] at h
    obtain ⟨hfirst, hlast | hrest⟩ := h
    · exact ⟨range, List.mem_cons_self, hfirst, hlast⟩
    · obtain ⟨found, hfound, hin⟩ := ih hrest
      exact ⟨found, List.mem_cons_of_mem _ hfound, hin⟩

end Referencing.Text
