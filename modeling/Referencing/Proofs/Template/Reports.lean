import Referencing.Proofs.Template.Places

namespace Referencing.Template

open Text

-- The second text of a marker that is a whole segment.
def independentAlternative? (segment : Text) : Option Text :=
  match lex .affix segment with
  | [⟨.dependent _ alternative, _, _⟩] => alternative.map (without tick)
  | _ => none

-- The text of a segment without a field and its alternative.
def wording (segment : Text) : Text × Option Text :=
  (independentText segment, independentAlternative? segment)

def Independent.wording (independent : Independent) : Text × Option Text :=
  (independent.text, independent.alternative)

theorem wording_read (segment : Text) (position : Nat) :
    (Independent.read segment position).wording = wording segment := by
  unfold Independent.read
  split
  · next h =>
    simp only [Independent.wording, wording, independentText, independentAlternative?, h]
  · next hnot =>
    have htext : independentText segment = without tick segment := by
      unfold independentText
      split
      · next h => exact absurd h (hnot _ _ _ _)
      · rfl
    have halternative : independentAlternative? segment = none := by
      unfold independentAlternative?
      split
      · next h => exact absurd h (hnot _ _ _ _)
      · rfl
    rw [wording, htext, halternative, Independent.wording]

def pairWordings (template : Template) : List (Text × Option Text) :=
  template.pairs.flatMap fun pair =>
    [(pair.opening, pair.openingAlternative), (pair.closing, pair.closingAlternative)]

-- The segments without a field that were read so far, by what became of them.
structure Sorting where
  leading : List Text := []
  queue : List Text := []
  trailing : List Text := []
  ignored : List Text := []

structure Progress.Sorts (progress : Progress) (sorting : Sorting) (found : List Text) : Prop where
  leading : progress.leading.toList.map Independent.wording = sorting.leading.map wording
  queue : progress.queue.map Independent.wording = sorting.queue.map wording
  trailing : progress.trailing.toList = sorting.trailing.map independentText
  ignored : progress.diagnostics.filterMap Diagnostic.leftOut? =
    sorting.ignored.map independentText
  kept : (sorting.leading ++ sorting.queue ++ sorting.trailing).Sublist found
  conserved : (sorting.leading ++ sorting.queue ++ sorting.trailing ++ sorting.ignored).Perm found
  -- Nothing is queued before the first field.
  queued : progress.queue ≠ [] → 0 < progress.fields.size

section Sorting

variable {progress : Progress} {sorting : Sorting} {found : List Text}

theorem Progress.Sorts.start : Progress.Sorts {} {} [] where
  leading := rfl
  queue := rfl
  trailing := rfl
  ignored := rfl
  kept := .slnil
  conserved := .nil
  queued := by simp

theorem Progress.Sorts.addField (h : progress.Sorts sorting found) (located : Located) :
    (progress.addField located).Sorts sorting found := by
  have hdiagnostics := progress.filterMap_addField Diagnostic.leftOut?_of_isAboutField located
  refine ⟨h.leading, h.queue, h.trailing, hdiagnostics.trans h.ignored, h.kept, h.conserved,
    fun hqueue => ?_⟩
  exact Nat.lt_of_lt_of_le (h.queued hqueue) (size_le_insert _ _ _)

-- A segment that follows all others is put after them, or reported.
theorem Progress.Sorts.addIndependent (h : progress.Sorts sorting found)
    (htrailing : progress.trailing = none) (isLast : Bool) (segment : Text) :
    ∃ sorting, (progress.addIndependent isLast (.read segment progress.fields.size)).Sorts sorting
      (found ++ [segment]) := by
  obtain ⟨leading, queue, trailing, ignored⟩ := sorting
  obtain ⟨hleading, hqueue, htexts, hignored, hkept, hconserved, hqueued⟩ := h
  simp only [] at hleading hqueue htexts hignored hkept hconserved
  obtain rfl : trailing = [] := by
    rw [htrailing] at htexts
    exact List.map_eq_nil_iff.1 htexts.symm
  rw [List.append_nil] at hkept hconserved
  have hkept' : (leading ++ queue ++ [segment]).Sublist (found ++ [segment]) :=
    hkept.append_right [segment]
  have hconserved' : (leading ++ queue ++ [segment] ++ ignored).Perm (found ++ [segment]) := by
    refine List.Perm.trans ?_ (hconserved.append_right [segment])
    rw [List.append_assoc, List.append_assoc _ ignored]
    exact List.perm_append_comm.append_left (leading ++ queue)
  have hwording := wording_read segment progress.fields.size
  have htext := text_read segment progress.fields.size
  unfold Progress.addIndependent
  rw [position_read]
  split
  · next hstart =>
    have hempty : progress.queue = [] := by
      by_contra hne
      have hpos := hqueued hne
      omega
    obtain rfl : queue = [] := by
      rw [hempty] at hqueue
      exact List.map_eq_nil_iff.1 hqueue.symm
    split
    · next hnone =>
      obtain rfl : leading = [] := by
        rw [hnone] at hleading
        exact List.map_eq_nil_iff.1 hleading.symm
      refine ⟨⟨[segment], [], [], ignored⟩, ⟨?_, hqueue, htexts, hignored, ?_, ?_, hqueued⟩⟩
      · simp [hwording]
      · simp
      · simpa using hconserved'
    · refine ⟨⟨leading, [], [], ignored ++ [segment]⟩, ⟨hleading, hqueue, htexts, ?_, ?_, ?_,
        hqueued⟩⟩
      · simp [Progress.report, hignored, Diagnostic.leftOut?, htext]
      · simpa using hkept.trans (List.sublist_append_left _ _)
      · simpa using hconserved.append_right [segment]
  · next hlater =>
    split
    · refine ⟨⟨leading, queue, [segment], ignored⟩, ⟨hleading, hqueue, ?_, hignored, hkept',
        hconserved', hqueued⟩⟩
      simp [htext]
    · refine ⟨⟨leading, queue ++ [segment], [], ignored⟩, ⟨hleading, ?_, htexts, hignored, ?_, ?_,
        fun _ => Nat.pos_of_ne_zero hlater⟩⟩
      · simp [hqueue, hwording]
      · simpa using hkept'
      · simpa using hconserved'

theorem Progress.Sorts.addSegments (h : progress.Sorts sorting found)
    (htrailing : progress.trailing = none) (names : FieldSet) (segments : List Text) :
    ∃ sorting, (progress.addSegments names segments).Sorts sorting
      (found ++ segments.filter fun segment => (locate names segment).isNone) := by
  induction segments generalizing progress sorting found with
  | nil => exact ⟨sorting, by simpa [Progress.addSegments] using h⟩
  | cons segment rest ih =>
    rw [Progress.addSegments, Progress.addSegment]
    cases hlocate : locate names segment with
    | some located =>
      rw [List.filter_cons_of_neg (by simp [hlocate])]
      exact ih (h.addField located) htrailing
    | none =>
      obtain ⟨sorting, hstep⟩ := h.addIndependent htrailing rest.isEmpty segment
      rw [List.filter_cons_of_pos (by simp [hlocate]), List.append_cons]
      cases rest with
      | nil => exact ⟨sorting, by simpa [Progress.addSegments] using hstep⟩
      | cons next rest => exact ih hstep ((trailing_addIndependent progress _).trans htrailing)

end Sorting

-- What becomes of the segments without a field. Those of `whole` are printed as they
-- are written, with their markers.
structure Account where
  whole : List Text := []
  leading : List Text := []
  bracketing : List Text := []
  closing : List Text := []
  leftOut : List Text := []

namespace Account

-- Each of the segments is in one place, and those that are printed are in their order.
structure Covers (account : Account) (segments : List Text) : Prop where
  conserved : (account.whole ++ account.leading ++ account.bracketing ++ account.closing ++
    account.leftOut).Perm segments
  inOrder : (account.whole ++ account.leading ++ account.bracketing ++ account.closing).Sublist
    segments

-- What a template is made of.
structure Describes (account : Account) (template : Template) : Prop where
  preliminary : template.preliminary.getD [] =
    account.whole.flatMap (without tick) ++ account.leading.flatMap independentText
  pairs : template.pairWordings = account.bracketing.map wording
  ultimate : template.ultimate.getD [] = account.closing.flatMap independentText
  single : account.leading.length ≤ 1 ∧ account.closing.length ≤ 1
  -- All is printed as it is written where there is no field, and nothing where there is one.
  unnamed : template.fields.entries = [] → account = { whole := account.whole }
  named : template.fields.entries ≠ [] → account.whole = []
  -- Where there is no field, all segments but the first are reported as well.
  reports : template.leftOutTexts =
    (account.whole.tail ++ account.leftOut).map independentText

-- The alternatives of segments that bracket nothing have no place in a template.
def lostAlternatives (account : Account) : List Text :=
  ((account.leading ++ account.closing ++ account.leftOut).filterMap
    independentAlternative?).filter (· ≠ [])

-- What is asked of the reports: only the texts of segments that are left out are
-- reported as such, and whatever is left out is reported.
structure IsReported (account : Account) (template : Template) : Prop where
  truthful : ∀ text ∈ template.leftOutTexts, ∃ segment ∈ account.leftOut,
    independentText segment = text
  texts : ∀ segment ∈ account.leftOut, independentText segment ∈ template.leftOutTexts
  alternatives : ∀ alternative ∈ account.lostAlternatives, alternative ∈ template.leftOutTexts

theorem Describes.leftOutTexts_eq {account : Account} {template : Template}
    (h : account.Describes template) (hwhole : account.whole.length ≤ 1) :
    template.leftOutTexts = account.leftOut.map independentText := by
  have htail : account.whole.tail = [] := List.length_eq_zero_iff.1 (by simp; omega)
  rw [h.reports, htail, List.nil_append]

-- Nothing is left out where there is no field, so that nothing should be reported.
theorem Describes.length_whole_le_one {account : Account} {template : Template}
    (h : account.Describes template) (hreported : account.IsReported template) :
    account.whole.length ≤ 1 := by
  by_cases hfields : template.fields.entries = []
  · have hleftOut : account.leftOut = [] := by rw [h.unnamed hfields]
    by_contra hlength
    obtain ⟨segment, hsegment⟩ := List.exists_mem_of_ne_nil account.whole.tail fun hnil => by
      have := congrArg List.length hnil
      simp only [List.length_tail, List.length_nil] at this
      omega
    have hmem : independentText segment ∈ template.leftOutTexts := by
      rw [h.reports]
      exact List.mem_map_of_mem (List.mem_append_left _ hsegment)
    obtain ⟨other, hother, -⟩ := hreported.truthful _ hmem
    rw [hleftOut] at hother
    contradiction
  · rw [h.named hfields]
    exact Nat.zero_le 1

theorem Describes.isReported_iff {account : Account} {template : Template}
    (h : account.Describes template) :
    account.IsReported template ↔ account.whole.length ≤ 1 ∧
      ∀ alternative ∈ account.lostAlternatives, alternative ∈ template.leftOutTexts := by
  constructor
  · exact fun hreported => ⟨h.length_whole_le_one hreported, hreported.alternatives⟩
  · rintro ⟨hwhole, halternatives⟩
    have htexts := h.leftOutTexts_eq hwhole
    refine ⟨fun text htext => ?_, fun segment hsegment => ?_, halternatives⟩
    · rw [htexts] at htext
      exact List.mem_map.1 htext
    · rw [htexts]
      exact List.mem_map_of_mem hsegment

theorem Covers.lostAlternatives_eq_nil {account : Account} {segments : List Text}
    (h : account.Covers segments)
    (hnone : ∀ segment ∈ segments, independentAlternative? segment = none) :
    account.lostAlternatives = [] := by
  have hlost : (account.leading ++ account.closing ++ account.leftOut).filterMap
      independentAlternative? = [] := by
    refine List.filterMap_eq_nil_iff.2 fun segment hsegment => hnone segment ?_
    refine h.conserved.subset ?_
    simp only [List.mem_append] at hsegment ⊢
    tauto
  rw [lostAlternatives, hlost, List.filter_nil]

end Account

theorem getD_filter_ne_nil (text : Option Text) :
    (text.filter (· ≠ [])).getD [] = text.toList.flatten := by
  cases text with
  | none => rfl
  | some text => cases text <;> simp [Option.filter]

theorem texts_of_wordings {segments : List Text} {independents : List Independent}
    (h : segments.map wording = independents.map Independent.wording) :
    segments.map independentText = independents.map (·.text) := by
  have hfirst := congrArg (List.map Prod.fst) h
  rwa [List.map_map, List.map_map] at hfirst

theorem length_le_one {text : Option Text} {segments : List Text}
    (h : text.toList = segments.map independentText) : segments.length ≤ 1 := by
  rw [← List.length_map (f := independentText), ← h]
  exact Option.length_toList_le

-- A trailing segment closes the template, or is left out where another one does.
theorem exists_account_finish {progress : Progress} {sorting : Sorting} {found : List Text}
    (h : progress.Sorts sorting found) (hfields : progress.fields.entries ≠ []) :
    ∃ account : Account, account.Covers found ∧ account.Describes progress.finish := by
  obtain ⟨before, after, harranges⟩ := exists_arranges_arrangement progress
  have hgathered : (sorting.leading ++ sorting.queue).map wording =
      before.map Independent.wording ++
        progress.arrangement.bracketing.map Independent.wording ++
        after.map Independent.wording := by
    rw [List.map_append, ← h.leading, ← h.queue, ← List.map_append, harranges.queue,
      List.map_append, List.map_append]
  obtain ⟨front, closing, hsegments, hfront, hclosing⟩ := List.map_eq_append_iff.1 hgathered
  obtain ⟨leading, bracketing, rfl, hleading, hbracketing⟩ := List.map_eq_append_iff.1 hfront
  have hkept := h.kept
  have hconserved := h.conserved
  rw [hsegments] at hkept hconserved
  have hleads : progress.arrangement.preliminary.toList = leading.map independentText :=
    harranges.preliminary.trans (texts_of_wordings hleading).symm
  have hcloses : progress.arrangement.ultimate.toList = closing.map independentText :=
    harranges.ultimate.trans (texts_of_wordings hclosing).symm
  have hpreliminary : progress.finish.preliminary.getD [] = leading.flatMap independentText := by
    rw [preliminary_finish, getD_filter_ne_nil, hleads, List.flatMap_def]
  have hpairs : progress.finish.pairWordings = bracketing.map wording := by
    rw [hbracketing, pairWordings, pairs_finish]
    exact flatMap_pairUp Prod.mk harranges.even
  have hultimate := ultimate_finish progress
  have hreports := leftOutTexts_finish progress
  rw [h.ignored, h.trailing] at hreports
  cases hcase : progress.arrangement.ultimate with
  | some text =>
    rw [hcase, Option.some_or] at hultimate
    rw [hcase, Option.isSome_some, if_pos rfl, ← List.map_append] at hreports
    refine ⟨⟨[], leading, bracketing, closing, sorting.ignored ++ sorting.trailing⟩, ⟨?_, ?_⟩,
      ⟨hpreliminary, hpairs, ?_, ⟨length_le_one hleads, length_le_one hcloses⟩,
        fun hnone => absurd hnone hfields, fun _ => rfl, hreports⟩⟩
    · refine List.Perm.trans ?_ hconserved
      rw [List.append_assoc _ sorting.trailing]
      exact List.perm_append_comm.append_left (leading ++ bracketing ++ closing)
    · exact (List.sublist_append_left _ _).trans hkept
    · rw [hultimate, getD_filter_ne_nil, ← hcase, hcloses, List.flatMap_def]
  | none =>
    obtain rfl : closing = [] := by
      rw [hcase] at hcloses
      exact List.map_eq_nil_iff.1 hcloses.symm
    rw [List.append_nil] at hkept hconserved
    rw [hcase, Option.none_or] at hultimate
    rw [hcase, Option.isSome_none, if_neg Bool.false_ne_true, List.append_nil] at hreports
    refine ⟨⟨[], leading, bracketing, sorting.trailing, sorting.ignored⟩, ⟨hconserved, hkept⟩,
      ⟨hpreliminary, hpairs, ?_, ⟨length_le_one hleads, length_le_one h.trailing⟩,
        fun hnone => absurd hnone hfields, fun _ => rfl, hreports⟩⟩
    rw [hultimate, getD_filter_ne_nil, h.trailing, List.flatMap_def]

theorem insertFields_ne_nil (fields : Dict FieldSpec) {located : List Located}
    (h : located ≠ []) : (insertFields fields located).entries ≠ [] := by
  obtain ⟨init, last, rfl⟩ := (List.eq_nil_or_concat' located).resolve_left h
  have hfound : (insertFields fields (init ++ [last])).get? last.name = some last.spec := by
    rw [insertFields, List.foldl_append, List.foldl_cons, List.foldl_nil, Dict.get?_insert,
      if_pos rfl]
  intro hnil
  have hempty : insertFields fields (init ++ [last]) = Dict.empty := Dict.ext hnil
  rw [hempty] at hfound
  contradiction

-- Where no field comes out, none was found.
theorem locate_eq_none_of_unnamed {names : FieldSet} {segments : List Text}
    (h : (Progress.addSegments names {} segments).fields.entries = []) :
    ∀ segment ∈ segments, locate names segment = none := by
  rw [fields_addSegments] at h
  by_contra hne
  push Not at hne
  obtain ⟨segment, hsegment, hlocate⟩ := hne
  obtain ⟨found, hfound⟩ := Option.ne_none_iff_exists'.1 hlocate
  have hmem : found ∈ segments.filterMap (locate names) :=
    List.mem_filterMap.2 ⟨segment, hsegment, hfound⟩
  exact insertFields_ne_nil Dict.empty (List.ne_nil_of_mem hmem) h

-- Before any field all segments but the first are reported.
theorem leftOut_addSegments_unnamed (progress : Progress) {names : FieldSet} {segments : List Text}
    (hfields : progress.fields.size = 0)
    (hunnamed : ∀ segment ∈ segments, locate names segment = none) :
    (progress.addSegments names segments).diagnostics.filterMap Diagnostic.leftOut? =
      progress.diagnostics.filterMap Diagnostic.leftOut? ++
        (if progress.leading.isSome then segments else segments.tail).map independentText := by
  induction segments generalizing progress with
  | nil => simp [Progress.addSegments]
  | cons segment rest ih =>
    rw [List.forall_mem_cons] at hunnamed
    have hposition : (Independent.read segment progress.fields.size).position = 0 :=
      (position_read segment _).trans hfields
    rw [Progress.addSegments, Progress.addSegment, hunnamed.1]
    cases hleading : progress.leading with
    | none =>
      have hstep : progress.addIndependent rest.isEmpty (.read segment progress.fields.size) =
          { progress with leading := some (.read segment progress.fields.size) } := by
        simp only [Progress.addIndependent, hposition, hleading, if_true]
      have hrest := ih { progress with leading := some (.read segment progress.fields.size) } hfields
        hunnamed.2
      simp only [hstep, hrest]
      simp
    | some lead =>
      have hstep : progress.addIndependent rest.isEmpty (.read segment progress.fields.size) =
          progress.report [.ignoredLeadingText (independentText segment)] := by
        simp only [Progress.addIndependent, hposition, hleading, if_true, text_read]
      have hrest := ih (progress.report [.ignoredLeadingText (independentText segment)]) hfields
        hunnamed.2
      simp only [hstep, hrest]
      simp [Progress.report, hleading, Diagnostic.leftOut?]

theorem exists_account_finishWithoutField {names : FieldSet} {segments : List Text}
    (h : (Progress.addSegments names {} segments).fields.entries = []) :
    Account.Describes { whole := segments }
      ((Progress.addSegments names {} segments).finishWithoutField segments) := by
  have hreports := leftOut_addSegments_unnamed {} rfl (locate_eq_none_of_unnamed h)
  refine ⟨?_, rfl, rfl, ⟨Nat.zero_le _, Nat.zero_le _⟩, fun _ => rfl, fun hne => absurd rfl hne, ?_⟩
  · exact (getD_filter_ne_nil (some (segments.flatMap (without tick)))).trans (by simp)
  · rw [leftOutTexts, Progress.finishWithoutField, List.filterMap_append, hreports]
    simp [Diagnostic.leftOut?]

theorem exists_account_compile {source : Text} (names : FieldSet)
    (h : isBlankText source = false) :
    ∃ account : Account,
      account.Covers ((segments source).filter fun segment => (locate names segment).isNone) ∧
        account.Describes (compile source names) := by
  unfold compile
  rw [h, if_neg Bool.false_ne_true]
  simp only []
  split
  · next hunnamed =>
    have hall : (segments source).filter (fun segment => (locate names segment).isNone) =
        segments source := by
      refine List.filter_eq_self.2 fun segment hsegment => ?_
      rw [locate_eq_none_of_unnamed hunnamed segment hsegment, Option.isNone_none]
    refine ⟨{ whole := segments source }, ?_, exists_account_finishWithoutField hunnamed⟩
    rw [hall]
    exact ⟨by simp, by simp⟩
  · next hnamed =>
    obtain ⟨sorting, hsorts⟩ := Progress.Sorts.start.addSegments rfl names (segments source)
    exact exists_account_finish hsorts hnamed

theorem isBlankText_of_mem_segments {source segment : Text} (h : isBlankText source = true)
    (hsegment : segment ∈ segments source) : isBlankText segment = true := by
  have hpiece : segment ∈ splitWhere (· == '|') source := (List.mem_filter.1 hsegment).1
  refine List.all_eq_true.2 fun c hc => ?_
  exact List.all_eq_true.1 h c (mem_of_mem_splitWhere hpiece hc)

-- Where a field is found, what is reported as left out are the texts of the segments
-- that are. Where none is found, all segments are printed, and all but the first are
-- reported. An alternative is only kept in a pair, and not reported anywhere else. Of a
-- template that is white space alone nothing is kept or reported.
theorem compile_reports (source : Text) (names : FieldSet) :
    let template := compile source names
    let unnamed := (segments source).filter fun segment => (locate names segment).isNone
    (isBlankText source = true →
      template = blank ∧ template.keptTexts = [] ∧ template.diagnostics = [] ∧
        ∀ segment ∈ segments source, isBlankText segment = true) ∧
    (isBlankText source = false →
      ∃ account : Account, account.Covers unnamed ∧ account.Describes template ∧
        (template.fields.entries ≠ [] →
          template.leftOutTexts = account.leftOut.map independentText) ∧
        (account.IsReported template ↔
          (template.fields.entries = [] → unnamed.length ≤ 1) ∧
            ∀ alternative ∈ account.lostAlternatives, alternative ∈ template.leftOutTexts)) := by
  intro template unnamed
  refine ⟨fun hblank => ?_, fun h => ?_⟩
  · have htemplate : template = blank := if_pos hblank
    rw [htemplate]
    exact ⟨rfl, rfl, rfl, fun segment => isBlankText_of_mem_segments hblank⟩
  obtain ⟨account, hcovers, hdescribes⟩ := exists_account_compile names h
  have hwhole : account.whole.length ≤ 1 ↔
      (template.fields.entries = [] → unnamed.length ≤ 1) := by
    by_cases hfields : template.fields.entries = []
    · have hlength := hcovers.conserved.length_eq
      rw [hdescribes.unnamed hfields] at hlength
      simp only [List.append_nil] at hlength
      rw [hlength]
      exact ⟨fun hle _ => hle, fun hle => hle hfields⟩
    · rw [hdescribes.named hfields]
      exact ⟨fun _ hnil => absurd hnil hfields, fun _ => Nat.zero_le 1⟩
  refine ⟨account, hcovers, hdescribes, fun hfields => hdescribes.leftOutTexts_eq ?_, ?_⟩
  · exact hwhole.2 fun hnil => absurd hnil hfields
  · rw [hdescribes.isReported_iff, hwhole]

-- The second of two texts before the title is left out, and the report says so.
theorem reported_before_title :
    let names := FieldSet.ofList (["title", "edition"].map String.toList)
    let source := "See |also |title|(|edition|)|.".toList
    let template := compile source names
    isBlankText source = false ∧ template.fields.entries ≠ [] ∧
      template.keptTexts = ["See ", "(", ")", "."].map String.toList ∧
      template.leftOutTexts = ["also ".toList] ∧
      ∃ account : Account, account.Describes template ∧ account.IsReported template ∧
        account.leftOut.map independentText = ["also ".toList] := by
  intro names source template
  have hfields : template.fields.entries ≠ [] := by decide +kernel
  have hreported : template.leftOutTexts = ["also ".toList] := by decide +kernel
  have hnone : ∀ segment ∈ (segments source).filter fun segment => (locate names segment).isNone,
      independentAlternative? segment = none := by
    decide +kernel
  obtain ⟨account, hcovers, hdescribes, htexts, hiff⟩ :=
    (compile_reports source names).2 (by decide +kernel)
  refine ⟨by decide +kernel, hfields, by decide +kernel, hreported, account, hdescribes,
    hiff.2 ⟨fun hnil => absurd hnil hfields, ?_⟩, (htexts hfields).symm.trans hreported⟩
  rw [hcovers.lostAlternatives_eq_nil hnone]
  exact List.forall_mem_nil _

-- Without a field the second text is printed and yet reported as ignored, and with one
-- an alternative that has no pair is gone without a report.
theorem printed_text_reported :
    let names := FieldSet.ofList ["title".toList]
    let template := compile "See|also".toList names
    let marked := compile "%A%B%|title".toList names
    (template.preliminary = some "Seealso".toList ∧
      template.diagnostics = [.ignoredLeadingText "also".toList, .noRecognizedField] ∧
      ∀ account : Account, account.Covers ["See".toList, "also".toList] →
        account.Describes template → ¬account.IsReported template) ∧
    independentAlternative? "%A%B%".toList = some ['B'] ∧ marked.preliminary = some ['A'] ∧
      marked.ultimate = none ∧ marked.pairs = [] ∧ marked.diagnostics = [] := by
  intro names template marked
  refine ⟨⟨by decide +kernel, by decide +kernel, fun account hcovers hdescribes hreported => ?_⟩,
    by decide +kernel, by decide +kernel, by decide +kernel, by decide +kernel, by decide +kernel⟩
  have hfields : template.fields.entries = [] := by decide +kernel
  have hwhole := hdescribes.length_whole_le_one hreported
  have hlength := hcovers.conserved.length_eq
  rw [hdescribes.unnamed hfields] at hlength
  simp only [List.append_nil, List.length_cons, List.length_nil] at hlength
  omega

end Referencing.Template
