import Referencing.Proofs.Template.Locating
import Referencing.Proofs.Template.Reading
import Referencing.Template.Compile

namespace Referencing.Template

open Text

-- What holds of the beginning and is kept by every segment holds at the end.
theorem Progress.addSegments_induction {names : FieldSet} {motive : Progress → Prop}
    (field : ∀ progress segment found, locate names segment = some found →
      motive progress → motive (progress.addField found))
    (independent : ∀ progress isLast segment, locate names segment = none → motive progress →
      motive (progress.addIndependent isLast (.read segment progress.fields.size)))
    {progress : Progress} (h : motive progress) (segments : List Text) :
    motive (progress.addSegments names segments) := by
  induction segments generalizing progress with
  | nil => exact h
  | cons segment rest ih =>
    refine ih ?_
    unfold Progress.addSegment
    split
    · next found hlocate => exact field progress segment found hlocate h
    · next hlocate => exact independent progress _ segment hlocate h

-- What is not about a field is not reported with one.
theorem Progress.filterMap_addField {α : Type} {find : Diagnostic → Option α}
    (h : ∀ diagnostic, diagnostic.isAboutField = true → find diagnostic = none)
    (progress : Progress) (found : Located) :
    (progress.addField found).diagnostics.filterMap find =
      progress.diagnostics.filterMap find := by
  have hread : (FieldSpec.read found.name found.before found.after).2.filterMap find = [] :=
    List.filterMap_eq_nil_iff.2 fun diagnostic hdiagnostic =>
      h diagnostic (FieldSpec.diagnostics_read _ _ _ diagnostic hdiagnostic)
  have hagain : find (.duplicateField found.name) = none := h _ rfl
  simp only [Progress.addField, Progress.report, List.filterMap_append, hread, List.nil_append]
  split <;> simp [hagain]

-- A new field that is read without a complaint is all that is added.
theorem Progress.addField_of_read {progress : Progress} {found : Located} {spec : FieldSpec}
    (hread : FieldSpec.read found.name found.before found.after = (spec, []))
    (hnew : found.name ∉ progress.fields.keys) :
    progress.addField found =
      { progress with fields := progress.fields.insert found.name spec } := by
  have hcontains : progress.fields.contains found.name = false := by
    simpa [Dict.contains] using hnew
  simp [Progress.addField, Progress.report, hread, hcontains]

-- What a segment with a field is compiled to.
def Located.spec (found : Located) : FieldSpec :=
  (FieldSpec.read found.name found.before found.after).1

theorem fields_addIndependent (progress : Progress) (isLast : Bool) (found : Independent) :
    (progress.addIndependent isLast found).fields = progress.fields := by
  unfold Progress.addIndependent
  split
  · split <;> rfl
  · split <;> rfl

-- A segment changes the fields only if one is found in it.
theorem fields_addSegment (names : FieldSet) (isLast : Bool) (progress : Progress)
    (segment : Text) :
    (progress.addSegment names isLast segment).fields =
      (locate names segment).elim progress.fields fun found =>
        progress.fields.insert found.name found.spec := by
  unfold Progress.addSegment
  split
  · next found h => rw [h]; rfl
  · next h => rw [h, fields_addIndependent]; rfl

def insertFields (fields : Dict FieldSpec) (located : List Located) : Dict FieldSpec :=
  located.foldl (fun fields found => fields.insert found.name found.spec) fields

theorem fields_addSegments (names : FieldSet) (progress : Progress) (segments : List Text) :
    (progress.addSegments names segments).fields =
      insertFields progress.fields (segments.filterMap (locate names)) := by
  induction segments generalizing progress with
  | nil => rfl
  | cons segment rest ih =>
    rw [Progress.addSegments, ih, fields_addSegment]
    cases h : locate names segment with
    | none => simp [h]
    | some found => simp [h, insertFields]

-- The fields of a template are those found in its segments, one after the other.
theorem fields_compile {source : Text} (h : isBlankText source = false) (names : FieldSet) :
    (compile source names).fields =
      insertFields Dict.empty ((segments source).filterMap (locate names)) := by
  have hfields := fields_addSegments names {} (segments source)
  simp only [compile, h, Bool.false_eq_true, if_false]
  split
  · next hempty =>
    rw [← hfields]
    exact (Dict.ext hempty).symm
  · exact hfields

theorem get?_insertFields_of_forall_ne {name : Text} (fields : Dict FieldSpec)
    {located : List Located} (h : ∀ found ∈ located, found.name ≠ name) :
    (insertFields fields located).get? name = fields.get? name :=
  Dict.get?_foldl_insert_of_forall_ne h fields

-- A name that is found again is compiled anew.
theorem get?_fields_compile {source segment : Text} {names : FieldSet} {found : Located}
    {earlier later : List Text} (hblank : isBlankText source = false)
    (hsegments : segments source = earlier ++ segment :: later)
    (h : locate names segment = some found)
    (hlater : ∀ other ∈ later, ∀ again, locate names other = some again →
      again.name ≠ found.name) :
    (compile source names).fields.get? found.name = some found.spec := by
  have hnames : ∀ again ∈ later.filterMap (locate names), again.name ≠ found.name := by
    intro again hagain
    obtain ⟨other, hother, hlocate⟩ := List.mem_filterMap.1 hagain
    exact hlater other hother again hlocate
  rw [fields_compile hblank, hsegments, List.filterMap_append, List.filterMap_cons_some h,
    insertFields, List.foldl_append, List.foldl_cons, ← insertFields,
    get?_insertFields_of_forall_ne _ hnames, Dict.get?_insert, if_pos rfl]

end Referencing.Template
