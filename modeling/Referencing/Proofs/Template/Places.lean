import Mathlib.Data.List.Perm.Basic
import Referencing.Proofs.Template.PairOrder

namespace Referencing.Template

open Text

-- The text of a segment without a field: the first one of a marker that is the whole
-- segment, otherwise all of it.
def independentText (segment : Text) : Text :=
  match lex .affix segment with
  | [⟨.dependent primary _, _, _⟩] => without tick primary
  | _ => without tick segment

def independentTexts (names : FieldSet) (segments : List Text) : List Text :=
  (segments.filter fun segment => (locate names segment).isNone).map independentText

-- An independent text that is left out is reported.
def Diagnostic.leftOut? : Diagnostic → Option Text
  | .ignoredLeadingText text => some text
  | .discardedIndependent text => some text
  | _ => none

-- The texts of the pairs as they follow each other.
def pairTexts (template : Template) : List Text :=
  template.pairs.flatMap fun pair => [pair.opening, pair.closing]

-- The independent texts that a template has kept.
def keptTexts (template : Template) : List Text :=
  template.preliminary.toList ++ template.pairTexts ++ template.ultimate.toList

def leftOutTexts (template : Template) : List Text :=
  template.diagnostics.filterMap Diagnostic.leftOut?

theorem text_read (segment : Text) (position : Nat) :
    (Independent.read segment position).text = independentText segment := by
  unfold Independent.read
  split
  · next primary alternative h => simp only [independentText, h]
  · next hnot =>
    unfold independentText
    split
    · next h => exact absurd h (hnot _ _ _ _)
    · rfl

theorem Diagnostic.leftOut?_of_isAboutField (diagnostic : Diagnostic)
    (h : diagnostic.isAboutField = true) : diagnostic.leftOut? = none := by
  cases diagnostic with
  | ignoredLeadingText | discardedIndependent => contradiction
  | _ => rfl

-- The texts gathered in their order, without those that were left out.
def Progress.texts (progress : Progress) : List Text :=
  (progress.leading.toList ++ progress.queue).map (·.text) ++ progress.trailing.toList

-- What became of the texts of the segments read so far.
structure Progress.Gathers (progress : Progress) (texts : List Text) : Prop where
  kept : progress.texts.Sublist texts
  conserved : (progress.texts ++ progress.diagnostics.filterMap Diagnostic.leftOut?).Perm texts
  -- Nothing is queued before the first field.
  queued : progress.queue ≠ [] → 0 < progress.fields.size

section Gathering

variable {progress : Progress} {texts : List Text}

theorem Progress.Gathers.start : Progress.Gathers {} [] where
  kept := .slnil
  conserved := .nil
  queued := by simp

theorem Progress.Gathers.addField (h : progress.Gathers texts) (found : Located) :
    (progress.addField found).Gathers texts := by
  have hdiagnostics := progress.filterMap_addField Diagnostic.leftOut?_of_isAboutField found
  refine ⟨h.kept, hdiagnostics ▸ h.conserved, fun hqueue => ?_⟩
  exact Nat.lt_of_lt_of_le (h.queued hqueue) (size_le_insert _ _ _)

theorem Progress.Gathers.concat (h : progress.Gathers texts) (text : Text) :
    (progress.texts ++ [text]).Sublist (texts ++ [text]) ∧
      (progress.texts ++ [text] ++ progress.diagnostics.filterMap Diagnostic.leftOut?).Perm
        (texts ++ [text]) := by
  refine ⟨h.kept.append_right [text], ?_⟩
  refine List.Perm.trans ?_ (h.conserved.append_right [text])
  rw [List.append_assoc, List.append_assoc]
  exact List.perm_append_comm.append_left progress.texts

-- A text that follows all others is put after them, or reported.
theorem Progress.Gathers.addIndependent (h : progress.Gathers texts)
    (htrailing : progress.trailing = none) (isLast : Bool) {found : Independent}
    (hfound : found.position = progress.fields.size) :
    (progress.addIndependent isLast found).Gathers (texts ++ [found.text]) := by
  obtain ⟨hkept, hconserved⟩ := h.concat found.text
  unfold Progress.addIndependent
  split
  · next hstart =>
    have hqueue : progress.queue = [] := by
      by_contra hne
      have hpos := h.queued hne
      omega
    split
    · next hleading =>
      have htexts : Progress.texts { progress with leading := some found } =
          progress.texts ++ [found.text] := by
        simp [Progress.texts, hleading, hqueue, htrailing]
      exact ⟨htexts ▸ hkept, htexts ▸ hconserved, h.queued⟩
    · refine ⟨h.kept.trans (List.sublist_append_left _ _), ?_, h.queued⟩
      rw [Progress.report, List.filterMap_append, ← List.append_assoc]
      exact h.conserved.append_right [found.text]
  · next hlater =>
    split
    · have htexts : Progress.texts { progress with trailing := some found.text } =
          progress.texts ++ [found.text] := by
        simp [Progress.texts, htrailing]
      exact ⟨htexts ▸ hkept, htexts ▸ hconserved, h.queued⟩
    · have htexts : Progress.texts { progress with queue := progress.queue ++ [found] } =
          progress.texts ++ [found.text] := by
        simp [Progress.texts, htrailing]
      refine ⟨htexts ▸ hkept, htexts ▸ hconserved, fun _ => ?_⟩
      rw [hfound] at hlater
      exact Nat.pos_of_ne_zero hlater

theorem trailing_addIndependent (progress : Progress) (found : Independent) :
    (progress.addIndependent false found).trailing = progress.trailing := by
  unfold Progress.addIndependent
  split
  · split <;> rfl
  · rfl

-- A trailing text is only found at the last segment, so it does not take the place of
-- another one.
theorem Progress.Gathers.addSegments (h : progress.Gathers texts)
    (htrailing : progress.trailing = none) (names : FieldSet) (segments : List Text) :
    (progress.addSegments names segments).Gathers (texts ++ independentTexts names segments) := by
  induction segments generalizing progress texts with
  | nil => simpa [independentTexts, Progress.addSegments] using h
  | cons segment rest ih =>
    rw [Progress.addSegments, Progress.addSegment]
    cases hlocate : locate names segment with
    | some found =>
      have htexts : independentTexts names (segment :: rest) = independentTexts names rest := by
        simp [independentTexts, hlocate]
      rw [htexts]
      exact ih (h.addField found) htrailing
    | none =>
      have htexts : independentTexts names (segment :: rest) =
          [independentText segment] ++ independentTexts names rest := by
        simp [independentTexts, hlocate]
      have hstep := h.addIndependent htrailing rest.isEmpty
        (position_read segment progress.fields.size)
      rw [text_read] at hstep
      rw [htexts, ← List.append_assoc]
      cases rest with
      | nil => simpa [independentTexts, Progress.addSegments] using hstep
      | cons next rest => exact ih hstep ((trailing_addIndependent progress _).trans htrailing)

end Gathering

section Finishing

theorem toList_filter (text : Option Text) (keep : Text → Bool) :
    (text.filter keep).toList = text.toList.filter keep := by
  cases text with
  | none => rfl
  | some text => cases h : keep text <;> simp [Option.filter, h]

-- If the arrangement has a closing text already, the trailing one is reported.
theorem closing_or_discarded (closing trailing : Option Text) :
    (closing.or trailing).toList ++
        (if closing.isSome then trailing.toList else []) =
      closing.toList ++ trailing.toList := by
  cases closing <;> simp

variable (progress : Progress)

theorem pairTexts_finish :
    progress.finish.pairTexts = progress.arrangement.bracketing.map (·.text) := by
  obtain ⟨before, after, harranges⟩ := exists_arranges_arrangement progress
  rw [pairTexts, pairs_finish]
  exact flatMap_pairUp (fun text _ => text) harranges.even

theorem texts_eq_arranged :
    progress.texts = progress.arrangement.preliminary.toList ++ progress.finish.pairTexts ++
      progress.arrangement.ultimate.toList ++ progress.trailing.toList := by
  obtain ⟨before, after, harranges⟩ := exists_arranges_arrangement progress
  rw [Progress.texts, harranges.texts, pairTexts_finish]

theorem leftOutTexts_finish :
    progress.finish.leftOutTexts = progress.diagnostics.filterMap Diagnostic.leftOut? ++
      if progress.arrangement.ultimate.isSome then progress.trailing.toList else [] := by
  have hdiscarded : ∀ texts : List Text,
      (texts.map Diagnostic.discardedIndependent).filterMap Diagnostic.leftOut? = texts := by
    intro texts
    rw [List.filterMap_map]
    exact List.filterMap_some
  have hhollow : ∀ pairs : List Pair,
      (pairs.map fun pair => Diagnostic.emptyIndependentPair pair.opening pair.closing).filterMap
        Diagnostic.leftOut? = [] := by
    intro pairs
    rw [List.filterMap_map, List.filterMap_eq_nil_iff]
    exact fun _ _ => rfl
  rw [leftOutTexts, diagnostics_finish, List.filterMap_append, List.filterMap_append, hhollow,
    List.append_nil]
  split
  · rw [hdiscarded]
  · rfl

theorem keptTexts_finish_sublist : progress.finish.keptTexts.Sublist progress.texts := by
  have hclosing := closing_or_discarded progress.arrangement.ultimate progress.trailing
  have hultimate : progress.finish.ultimate.toList.Sublist
      (progress.arrangement.ultimate.toList ++ progress.trailing.toList) := by
    rw [ultimate_finish, toList_filter, ← hclosing]
    exact List.filter_sublist.trans (List.sublist_append_left _ _)
  have hpreliminary : progress.finish.preliminary.toList.Sublist
      progress.arrangement.preliminary.toList := by
    rw [preliminary_finish, toList_filter]
    exact List.filter_sublist
  rw [keptTexts, texts_eq_arranged, List.append_assoc (_ ++ _)]
  exact (hpreliminary.append (.refl _)).append hultimate

theorem filter_keptTexts_finish :
    progress.finish.keptTexts.filter (· ≠ []) =
      (progress.arrangement.preliminary.toList ++ progress.finish.pairTexts ++
        (progress.arrangement.ultimate.or progress.trailing).toList).filter (· ≠ []) := by
  rw [keptTexts, preliminary_finish, ultimate_finish, toList_filter, toList_filter]
  simp only [List.filter_append, List.filter_filter, Bool.and_self]

theorem perm_texts_finish :
    ((progress.finish.keptTexts ++ progress.finish.leftOutTexts).filter (· ≠ [])).Perm
      ((progress.texts ++ progress.diagnostics.filterMap Diagnostic.leftOut?).filter (· ≠ [])) := by
  have hclosing := closing_or_discarded progress.arrangement.ultimate progress.trailing
  rw [List.filter_append, filter_keptTexts_finish, ← List.filter_append, leftOutTexts_finish,
    texts_eq_arranged]
  refine List.Perm.filter _ ?_
  rw [List.append_assoc (_ ++ _) _ progress.trailing.toList, ← hclosing]
  simp only [List.append_assoc]
  exact ((List.perm_append_comm.append_left _).append_left _).append_left _

end Finishing

-- Each text of a segment without a field is in one place of the template or in one
-- report, if any field is found, and those that are kept are in the order of the
-- template.
theorem compile_keeps_texts (source : Text) (names : FieldSet)
    (h : (compile source names).fields.entries ≠ []) :
    (((compile source names).keptTexts ++ (compile source names).leftOutTexts).filter
        (· ≠ [])).Perm ((independentTexts names (segments source)).filter (· ≠ [])) ∧
      (compile source names).keptTexts.Sublist (independentTexts names (segments source)) := by
  have hgathers := Progress.Gathers.start.addSegments rfl names (segments source)
  rw [List.nil_append] at hgathers
  unfold compile at h ⊢
  split at h
  · contradiction
  · next hblank =>
    rw [if_neg hblank]
    simp only [] at h ⊢
    split at h
    · contradiction
    · next hfields =>
      rw [if_neg hfields]
      exact ⟨(perm_texts_finish _).trans (hgathers.conserved.filter _),
        (keptTexts_finish_sublist _).trans hgathers.kept⟩

-- A second text before the first field, a marker as the beginning of a pair, and an
-- odd number of texts.
theorem texts_kept_around_edition :
    let names := FieldSet.ofList (["title", "edition"].map String.toList)
    let source := "See |also |title|%, `ed. `%; %|edition|)|.".toList
    let texts := ["See ", "also ", ", ed. ", ")", "."].map String.toList
    let template := compile source names
    template.fields.entries ≠ [] ∧ independentTexts names (segments source) = texts ∧
      template.pairTexts = [", ed. ".toList, ")".toList] ∧
      template.leftOutTexts = ["also ".toList] ∧
      ((template.keptTexts ++ template.leftOutTexts).filter (· ≠ [])).Perm
        (texts.filter (· ≠ [])) ∧
      template.keptTexts.Sublist texts := by
  intro names source texts template
  have hfields : template.fields.entries ≠ [] := by decide +kernel
  have htexts : independentTexts names (segments source) = texts := by decide +kernel
  refine ⟨hfields, htexts, by decide +kernel, by decide +kernel, ?_⟩
  rw [← htexts]
  exact compile_keeps_texts source names hfields

end Referencing.Template
