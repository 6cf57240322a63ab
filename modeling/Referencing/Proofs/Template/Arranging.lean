import Mathlib.Data.List.Basic
import Referencing.Template.Compile

namespace Referencing.Template

open Text

-- An arrangement takes at most one text off at each end of a queue. What is left pairs
-- up.
structure Arranges (queue before after : List Independent) (arrangement : Arrangement) : Prop where
  queue : queue = before ++ arrangement.bracketing ++ after
  preliminary : arrangement.preliminary.toList = before.map (·.text)
  ultimate : arrangement.ultimate.toList = after.map (·.text)
  even : arrangement.bracketing.length % 2 = 0

section

variable {queue : List Independent}

theorem arranges_none (h : queue.length % 2 = 0) : Arranges queue [] [] ⟨none, none, queue⟩ where
  queue := by simp
  preliminary := rfl
  ultimate := rfl
  even := h

theorem arranges_first (h : queue.length % 2 = 1) :
    ∃ before after, Arranges queue before after
      ⟨queue.head?.map (·.text), none, queue.tail⟩ := by
  cases queue with
  | nil => contradiction
  | cons first rest =>
    refine ⟨[first], [], by simp, rfl, rfl, ?_⟩
    simp only [List.length_cons] at h
    simp only [List.tail_cons]
    omega

theorem arranges_last (h : queue.length % 2 = 1) :
    ∃ before after, Arranges queue before after
      ⟨none, queue.getLast?.map (·.text), queue.dropLast⟩ := by
  rcases List.eq_nil_or_concat' queue with rfl | ⟨init, last, rfl⟩
  · contradiction
  · refine ⟨[], [last], by simp, rfl, by simp, ?_⟩
    simp only [List.length_append, List.length_singleton] at h
    simp only [List.dropLast_concat]
    omega

theorem arranges_both (hne : queue ≠ []) (h : queue.length % 2 = 0) :
    ∃ before after, Arranges queue before after
      ⟨queue.head?.map (·.text), queue.getLast?.map (·.text), queue.tail.dropLast⟩ := by
  cases queue with
  | nil => contradiction
  | cons first rest =>
    rcases List.eq_nil_or_concat' rest with rfl | ⟨init, last, rfl⟩
    · contradiction
    · refine ⟨[first], [last], by simp, rfl, ?_, ?_⟩
      · rw [← List.cons_append, List.getLast?_concat]
        rfl
      · simp only [List.length_cons, List.length_append, List.length_nil] at h
        simp only [List.tail_cons, List.dropLast_concat]
        omega

theorem exists_arranges_arrange (fieldCount : Nat) (queue : List Independent) :
    ∃ before after, Arranges queue before after (arrange fieldCount queue) := by
  unfold arrange
  simp only []
  split
  · next h =>
    simp only [Bool.and_eq_true, decide_eq_true_eq] at h
    exact arranges_first (by omega)
  · split
    · next h =>
      simp only [Bool.and_eq_true, decide_eq_true_eq] at h
      exact arranges_last (by omega)
    · split
      · next h =>
        simp only [Bool.and_eq_true, decide_eq_true_eq] at h
        exact arranges_both h.1.1.1 h.1.1.2
      · split
        · next h =>
          split
          · exact arranges_first h
          · exact arranges_last h
        · next h => exact ⟨[], [], arranges_none (by omega)⟩

end

-- The leading text stands before the queue.
theorem exists_arranges (fieldCount : Nat) (leading : Option Independent)
    (queue : List Independent) :
    ∃ before after, Arranges (leading.toList ++ queue) before after
      (arrangeWithLeading fieldCount leading queue) := by
  unfold arrangeWithLeading
  cases leading with
  | none => exact exists_arranges_arrange fieldCount queue
  | some lead =>
    by_cases h : queue = []
    · simp only [h, if_true]
      exact ⟨[lead], [], by simp, rfl, rfl, rfl⟩
    · simp only [h, if_false]
      exact exists_arranges_arrange fieldCount (lead :: queue)

theorem Arranges.sublist {queue before after : List Independent} {arrangement : Arrangement}
    (h : Arranges queue before after arrangement) : arrangement.bracketing.Sublist queue := by
  rw [h.queue, List.append_assoc]
  exact (List.sublist_append_left _ _).trans (List.sublist_append_right _ _)

theorem Arranges.texts {queue before after : List Independent} {arrangement : Arrangement}
    (h : Arranges queue before after arrangement) :
    queue.map (·.text) = arrangement.preliminary.toList ++ arrangement.bracketing.map (·.text) ++
      arrangement.ultimate.toList := by
  rw [h.preliminary, h.ultimate, ← List.map_append, ← List.map_append, ← h.queue]

-- Of texts that pair up none is left over.
theorem flatMap_pairUp {α : Type} (side : Text → Option Text → α) {queue : List Independent}
    (h : queue.length % 2 = 0) :
    (pairUp queue).flatMap (fun pair =>
      [side pair.opening pair.openingAlternative, side pair.closing pair.closingAlternative]) =
      queue.map fun independent => side independent.text independent.alternative := by
  fun_induction pairUp queue with
  | case1 opening closing rest ih =>
    rw [List.flatMap_cons, ih (by simp only [List.length_cons] at h; omega)]
    rfl
  | case2 queue hpairs =>
    match queue with
    | [] => rfl
    | [independent] => contradiction
    | opening :: closing :: rest => exact absurd rfl (hpairs opening closing rest)

theorem exists_of_mem_pairUp {queue : List Independent} {pair : Pair} (h : pair ∈ pairUp queue) :
    ∃ opening ∈ queue, ∃ closing ∈ queue, pair =
      ⟨opening.text, opening.alternative, closing.text, closing.alternative,
        opening.position, closing.position⟩ := by
  fun_induction pairUp queue with
  | case1 opening closing rest ih =>
    rcases List.mem_cons.1 h with rfl | h
    · exact ⟨opening, by simp, closing, by simp, rfl⟩
    · obtain ⟨first, hfirst, last, hlast, rfl⟩ := ih h
      exact ⟨first, by simp [hfirst], last, by simp [hlast], rfl⟩
  | case2 => simp at h

-- What is made of the texts that were gathered.
def Progress.arrangement (progress : Progress) : Arrangement :=
  arrangeWithLeading progress.fields.size progress.leading progress.queue

section Finishing

variable (progress : Progress)

theorem exists_arranges_arrangement :
    ∃ before after, Arranges (progress.leading.toList ++ progress.queue) before after
      progress.arrangement :=
  exists_arranges progress.fields.size progress.leading progress.queue

theorem preliminary_finish :
    progress.finish.preliminary = progress.arrangement.preliminary.filter (· ≠ []) := rfl

theorem ultimate_finish :
    progress.finish.ultimate =
      (progress.arrangement.ultimate.or progress.trailing).filter (· ≠ []) := rfl

theorem pairs_finish : progress.finish.pairs = pairUp progress.arrangement.bracketing := rfl

theorem diagnostics_finish :
    progress.finish.diagnostics = progress.diagnostics ++
      (if progress.arrangement.ultimate.isSome then
        progress.trailing.toList.map .discardedIndependent else []) ++
      (progress.finish.pairs.filter fun pair => pair.stop ≤ pair.first).map fun pair =>
        .emptyIndependentPair pair.opening pair.closing := rfl

end Finishing

end Referencing.Template
