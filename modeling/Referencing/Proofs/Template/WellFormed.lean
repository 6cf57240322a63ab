import Referencing.Proofs.Template.PairOrder
import Referencing.Proofs.Template.Texts

namespace Referencing.Template

open Text

-- The two texts of a pair that is reported to be around nothing.
def Diagnostic.hollow? : Diagnostic → Option (Text × Text)
  | .emptyIndependentPair opening closing => some (opening, closing)
  | _ => none

structure WellFormed (template : Template) (names : FieldSet) : Prop where
  distinct : template.fieldNames.Nodup
  known : ∀ name ∈ template.fieldNames, names.contains name = true
  fields : ∀ field ∈ template.fields.entries, field.2.WellFormed
  unticked : ∀ text ∈ template.texts, tick ∉ text
  preliminary : template.preliminary ≠ some []
  ultimate : template.ultimate ≠ some []
  -- Each pair begins where the one before it has ended or later.
  apart : template.pairs.Pairwise fun earlier later => earlier.stop ≤ later.first
  within : ∀ pair ∈ template.pairs, pair.first ≤ pair.stop ∧ pair.stop ≤ template.fields.size
  -- The pairs around nothing are reported in their order, and no others.
  hollow : template.diagnostics.filterMap Diagnostic.hollow? =
    (template.pairs.filter fun pair => pair.first = pair.stop).map fun pair =>
      (pair.opening, pair.closing)

theorem Diagnostic.hollow?_of_isAboutField (diagnostic : Diagnostic)
    (h : diagnostic.isAboutField = true) : diagnostic.hollow? = none := by
  cases diagnostic with
  | emptyIndependentPair => contradiction
  | _ => rfl

section Showing

variable {spec : FieldSpec}

theorem mem_rebuilt_of_mem {side : Side} {part : Part} (h : part ∈ spec.affix side) {c : Char}
    (hc : c ∈ part.rebuilt spec side) : c ∈ (spec.affix side).rebuilt spec side :=
  List.mem_flatMap.2 ⟨part, h, hc⟩

theorem mem_rebuilt_of_run {side : Side} {run : Text} (h : run ∈ (spec.affix side).runs) {c : Char}
    (hc : c ∈ run) : c ∈ (spec.affix side).rebuilt spec side := by
  obtain ⟨part, hpart, hrun⟩ := List.mem_flatMap.1 h
  cases part with
  | text other =>
    obtain rfl := List.mem_singleton.1 hrun
    exact mem_rebuilt_of_mem hpart hc
  | dependent | plural => contradiction

theorem FieldSpec.WellFormed.mem_rebuilt_of_dependent (h : spec.WellFormed) {side : Side}
    {text : Text} (htext : text ∈ spec.dependent side ∨ text ∈ spec.alternative side) {c : Char}
    (hc : c ∈ text) : c ∈ (spec.affix side).rebuilt spec side := by
  have hthere : (spec.dependent side).isSome = true := by
    rcases htext with htext | htext
    · rw [Option.mem_def.1 htext, Option.isSome_some]
    · exact h.alternative side (by rw [Option.mem_def.1 htext, Option.isSome_some])
  obtain ⟨primary, hprimary⟩ := Option.isSome_iff_exists.1 hthere
  refine mem_rebuilt_of_mem ((h.dependent side).2 hthere) ?_
  rw [Part.rebuilt, hprimary]
  rcases htext with htext | htext
  · obtain rfl := Option.some.inj (hprimary.symm.trans htext)
    cases spec.alternative side <;> simp [Lexeme.spelling, hc]
  · rw [Option.mem_def.1 htext]
    simp [Lexeme.spelling, hc]

theorem FieldSpec.WellFormed.mem_rebuilt_of_plural (h : spec.WellFormed) {text : Text}
    (htext : text ∈ spec.singular ∨ text ∈ spec.plural) {c : Char} (hc : c ∈ text) :
    ∃ side, c ∈ (spec.affix side).rebuilt spec side := by
  have hthere : spec.singular.isSome = true ∧ spec.plural.isSome = true := by
    have htogether := h.together
    rcases htext with htext | htext
    · rw [Option.mem_def.1 htext] at htogether ⊢
      exact ⟨rfl, htogether.symm⟩
    · rw [Option.mem_def.1 htext] at htogether ⊢
      exact ⟨htogether, rfl⟩
  have hwritten : ∀ side, c ∈ Part.plural.rebuilt spec side := by
    intro side
    obtain ⟨one, hone⟩ := Option.isSome_iff_exists.1 hthere.1
    obtain ⟨many, hmany⟩ := Option.isSome_iff_exists.1 hthere.2
    rw [Part.rebuilt, hone, hmany]
    rcases htext with htext | htext
    · obtain rfl := Option.some.inj (hone.symm.trans htext)
      simp [Lexeme.spelling, hc]
    · obtain rfl := Option.some.inj (hmany.symm.trans htext)
      simp [Lexeme.spelling, hc]
  rcases List.mem_append.1 (h.plural.2 hthere) with hmem | hmem
  · exact ⟨.pre, mem_rebuilt_of_mem hmem (hwritten .pre)⟩
  · exact ⟨.post, mem_rebuilt_of_mem hmem (hwritten .post)⟩

-- Every text of a well-formed field shows in what can be rebuilt of it.
theorem FieldSpec.WellFormed.exists_mem_rebuilt (h : spec.WellFormed) {text : Text}
    (htext : text ∈ spec.texts) {c : Char} (hc : c ∈ text) :
    ∃ side, c ∈ (spec.affix side).rebuilt spec side := by
  simp only [FieldSpec.texts, FieldSpec.choices, List.mem_append, Option.mem_toList] at htext
  rcases htext with (hpre | hpost) | ((((hpre | hpre) | hpost) | hpost) | hone) | hmany
  · exact ⟨.pre, mem_rebuilt_of_run hpre hc⟩
  · exact ⟨.post, mem_rebuilt_of_run hpost hc⟩
  · exact ⟨.pre, h.mem_rebuilt_of_dependent (.inl hpre) hc⟩
  · exact ⟨.pre, h.mem_rebuilt_of_dependent (.inr hpre) hc⟩
  · exact ⟨.post, h.mem_rebuilt_of_dependent (.inl hpost) hc⟩
  · exact ⟨.post, h.mem_rebuilt_of_dependent (.inr hpost) hc⟩
  · exact h.mem_rebuilt_of_plural (.inl hone) hc
  · exact h.mem_rebuilt_of_plural (.inr hmany) hc

theorem tick_not_mem_texts_read (field before after : Text) :
    ∀ text ∈ (FieldSpec.read field before after).1.texts, tick ∉ text := by
  obtain ⟨hpre, hpost⟩ := FieldSpec.rebuilds_read field before after
  intro text htext hmem
  obtain ⟨side, hmem⟩ :=
    (FieldSpec.wellFormed_read field before after).exists_mem_rebuilt htext hmem
  cases side with
  | pre => exact not_mem_without tick before (hpre ▸ hmem)
  | post => exact not_mem_without tick after (hpost ▸ hmem)

end Showing

def Independent.IsUnticked (independent : Independent) : Prop :=
  tick ∉ independent.text ∧ ∀ alternative ∈ independent.alternative, tick ∉ alternative

theorem Independent.isUnticked_read (segment : Text) (position : Nat) :
    (Independent.read segment position).IsUnticked := by
  unfold Independent.read
  split
  · next =>
    refine ⟨not_mem_without _ _, fun text htext => ?_⟩
    obtain ⟨other, -, rfl⟩ := Option.map_eq_some_iff.1 htext
    exact not_mem_without _ _
  · exact ⟨not_mem_without _ _, by simp⟩

-- What is known of the fields and texts gathered from the segments that were read.
structure Progress.Sound (names : FieldSet) (progress : Progress) : Prop where
  known : ∀ field ∈ progress.fields.entries, field.1 ∈ names.names
  fields : ∀ field ∈ progress.fields.entries, field.2.WellFormed
  unticked : ∀ field ∈ progress.fields.entries, ∀ text ∈ field.2.texts, tick ∉ text
  gathered : ∀ independent ∈ progress.leading.toList ++ progress.queue, independent.IsUnticked
  trailing : ∀ text ∈ progress.trailing, tick ∉ text
  hollow : progress.diagnostics.filterMap Diagnostic.hollow? = []

theorem Progress.Sound.start (names : FieldSet) : Progress.Sound names {} where
  known := by simp [Dict.empty]
  fields := by simp [Dict.empty]
  unticked := by simp [Dict.empty]
  gathered := by simp
  trailing := by simp
  hollow := rfl

theorem forall_mem_entries_insert {α : Type} {motive : Text × α → Prop} {dict : Dict α} {key : Text}
    {value : α} (h : ∀ entry ∈ dict.entries, motive entry) (hnew : motive (key, value)) :
    ∀ entry ∈ (dict.insert key value).entries, motive entry := by
  rintro ⟨other, found⟩ hentry
  rw [← Dict.get?_eq_some_iff, Dict.get?_insert] at hentry
  split at hentry
  · next hother =>
    obtain rfl := Option.some.inj hentry
    exact hother ▸ hnew
  · exact h _ ((Dict.get?_eq_some_iff dict other found).1 hentry)

section Keeping

variable {names : FieldSet} {progress : Progress}

theorem Progress.Sound.addField (h : progress.Sound names) {segment : Text} {found : Located}
    (hfound : locate names segment = some found) : (progress.addField found).Sound names := by
  refine ⟨?_, ?_, ?_, h.gathered, h.trailing, ?_⟩
  · exact forall_mem_entries_insert h.known (name_mem_of_locate hfound)
  · exact forall_mem_entries_insert h.fields (FieldSpec.wellFormed_read _ _ _)
  · exact forall_mem_entries_insert h.unticked (tick_not_mem_texts_read _ _ _)
  · rw [Progress.filterMap_addField Diagnostic.hollow?_of_isAboutField, h.hollow]

theorem Progress.Sound.addIndependent (h : progress.Sound names) (isLast : Bool)
    {found : Independent} (hfound : found.IsUnticked) :
    (progress.addIndependent isLast found).Sound names := by
  unfold Progress.addIndependent
  split
  · split
    · refine ⟨h.known, h.fields, h.unticked, ?_, h.trailing, h.hollow⟩
      exact List.forall_mem_cons.2 ⟨hfound, (List.forall_mem_append.1 h.gathered).2⟩
    · refine ⟨h.known, h.fields, h.unticked, h.gathered, h.trailing, ?_⟩
      rw [Progress.report, List.filterMap_append, h.hollow]
      rfl
  · split
    · refine ⟨h.known, h.fields, h.unticked, h.gathered, ?_, h.hollow⟩
      intro text htext
      obtain rfl := Option.some.inj htext
      exact hfound.1
    · refine ⟨h.known, h.fields, h.unticked, ?_, h.trailing, h.hollow⟩
      rw [← List.append_assoc]
      exact List.forall_mem_append.2 ⟨h.gathered, by simpa using hfound⟩

theorem Progress.Sound.addSegments (h : progress.Sound names) (segments : List Text) :
    (progress.addSegments names segments).Sound names :=
  addSegments_induction (fun _ _ _ hfound h => h.addField hfound)
    (fun _ _ _ _ h => h.addIndependent _ (Independent.isUnticked_read _ _)) h segments

-- What the arrangement makes of the texts is some of them.
theorem Progress.Sound.unticked_finish (h : progress.Sound names) :
    ∀ text ∈ progress.finish.texts, tick ∉ text := by
  obtain ⟨before, after, harranges⟩ := exists_arranges_arrangement progress
  have hgathered : ∀ text ∈ (progress.leading.toList ++ progress.queue).map (·.text),
      tick ∉ text := by
    intro text htext
    obtain ⟨independent, hindependent, rfl⟩ := List.mem_map.1 htext
    exact (h.gathered independent hindependent).1
  rw [harranges.texts, List.forall_mem_append, List.forall_mem_append] at hgathered
  obtain ⟨⟨hpreliminary, -⟩, hultimate⟩ := hgathered
  intro text htext
  simp only [Template.texts, List.mem_append, List.mem_flatMap] at htext
  rcases htext with ((⟨field, hfield, htext⟩ | ⟨pair, hpair, htext⟩) | htext) | htext
  · exact h.unticked field hfield text htext
  · obtain ⟨opening, hopening, closing, hclosing, rfl⟩ := exists_of_mem_pairUp hpair
    obtain ⟨hopen, hopenAlternative⟩ := h.gathered opening (harranges.sublist.subset hopening)
    obtain ⟨hclose, hcloseAlternative⟩ := h.gathered closing (harranges.sublist.subset hclosing)
    simp only [Pair.texts, List.mem_cons, List.mem_append, Option.mem_toList] at htext
    rcases htext with rfl | rfl | htext | htext
    · exact hopen
    · exact hclose
    · exact hopenAlternative text htext
    · exact hcloseAlternative text htext
  · refine hpreliminary text (Option.mem_toList.2 ?_)
    exact (Option.filter_eq_some_iff.1 (Option.mem_toList.1 htext)).1
  · have hchosen := (Option.filter_eq_some_iff.1 (Option.mem_toList.1 htext)).1
    rcases Option.or_eq_some_iff.1 hchosen with hclosing | ⟨-, htrailing⟩
    · exact hultimate text (Option.mem_toList.2 hclosing)
    · exact h.trailing text htrailing

end Keeping

theorem filter_ne_some_nil (text : Option Text) : text.filter (· ≠ []) ≠ some [] := by
  intro h
  simpa using (Option.filter_eq_some_iff.1 h).2

theorem Progress.Sound.hollow_finish {names : FieldSet} {progress : Progress}
    (h : progress.Sound names) (hordered : InOrder 0 progress.finish.pairs) :
    progress.finish.diagnostics.filterMap Diagnostic.hollow? =
      (progress.finish.pairs.filter fun pair => pair.first = pair.stop).map fun pair =>
        (pair.opening, pair.closing) := by
  have hdiscarded : ∀ texts : List Text,
      (texts.map Diagnostic.discardedIndependent).filterMap Diagnostic.hollow? = [] := by
    intro texts
    rw [List.filterMap_map, List.filterMap_eq_nil_iff]
    exact fun _ _ => rfl
  have hsame : progress.finish.pairs.filter (fun pair => pair.stop ≤ pair.first) =
      progress.finish.pairs.filter fun pair => pair.first = pair.stop := by
    refine List.filter_congr fun pair hpair => ?_
    obtain ⟨-, hle⟩ := hordered.first_le_stop pair hpair
    simp only [decide_eq_decide]
    omega
  have hreported : ∀ pairs : List Pair,
      (pairs.map fun pair => Diagnostic.emptyIndependentPair pair.opening pair.closing).filterMap
        Diagnostic.hollow? = pairs.map fun pair => (pair.opening, pair.closing) := by
    intro pairs
    rw [List.filterMap_map]
    exact congrFun List.filterMap_eq_map pairs
  rw [diagnostics_finish, List.filterMap_append, List.filterMap_append, h.hollow, hreported, hsame]
  split
  · rw [hdiscarded]
    rfl
  · rfl

-- A template without fields has no pairs; all its text is preliminary.
theorem wellFormed_without_field (names : FieldSet) {preliminary : Option Text}
    {diagnostics : List Diagnostic} (hunticked : ∀ text ∈ preliminary, tick ∉ text)
    (hnonEmpty : preliminary ≠ some []) (hhollow : diagnostics.filterMap Diagnostic.hollow? = []) :
    WellFormed { blank with preliminary := preliminary, diagnostics := diagnostics } names where
  distinct := .nil
  known := by simp [blank, fieldNames, Dict.keys, Dict.empty]
  fields := by simp [blank, Dict.empty]
  unticked := by simpa [Template.texts, blank, Dict.empty] using hunticked
  preliminary := hnonEmpty
  ultimate := by simp [blank]
  apart := .nil
  within := by simp [blank]
  hollow := hhollow

theorem wellFormed_finish {names : FieldSet} {progress : Progress} (h : progress.Sound names)
    (hordered : progress.Ordered) : progress.finish.WellFormed names where
  distinct := progress.fields.distinct
  known := by
    intro name hname
    obtain ⟨field, hfield, rfl⟩ := List.mem_map.1 hname
    exact List.contains_iff_mem.2 (h.known field hfield)
  fields := h.fields
  unticked := h.unticked_finish
  preliminary := preliminary_finish progress ▸ filter_ne_some_nil _
  ultimate := ultimate_finish progress ▸ filter_ne_some_nil _
  apart := hordered.inOrder_finish.pairwise
  within := by
    intro pair hpair
    obtain ⟨-, hle⟩ := hordered.inOrder_finish.first_le_stop pair hpair
    exact ⟨hle, hordered.stop_le_size pair hpair⟩
  hollow := h.hollow_finish hordered.inOrder_finish

theorem wellFormed_compile (source : Text) (names : FieldSet) :
    (compile source names).WellFormed names := by
  have hsound := (Progress.Sound.start names).addSegments (segments source)
  have hordered := Progress.Ordered.start.addSegments names (segments source)
  unfold compile
  split
  · exact wellFormed_without_field names (by simp) (by simp) rfl
  · simp only []
    split
    · refine wellFormed_without_field names ?_ (filter_ne_some_nil _) ?_
      · intro text htext
        have hchosen := (Option.filter_eq_some_iff.1 htext).1
        obtain rfl := Option.some.inj hchosen
        intro hmem
        obtain ⟨segment, -, hmem⟩ := List.mem_flatMap.1 hmem
        exact not_mem_without tick segment hmem
      · rw [List.filterMap_append, hsound.hollow]
        rfl
    · exact wellFormed_finish hsound hordered

end Referencing.Template
