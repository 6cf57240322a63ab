import Referencing.Proofs.Template.Fields

namespace Referencing.Template

open Text

-- No text around a field is lost: whatever markers and quotations stand there, it can
-- be read off what the segment is compiled to, in a template the last segment of
-- that field.
theorem exists_rebuilds_of_locate (names : FieldSet) (segment : Text) (found : Located)
    (h : locate names segment = some found) :
    found.before ++ found.name ++ found.after = segment ∧
      ∃ spec : FieldSpec, spec.Rebuilds found.before found.after ∧
        (∀ (progress : Progress) (isLast : Bool),
          (progress.addSegment names isLast segment).fields.get? found.name = some spec) ∧
        ∀ (source : Text) (earlier later : List Text), isBlankText source = false →
          segments source = earlier ++ segment :: later →
          (∀ other ∈ later, ∀ again, locate names other = some again →
            again.name ≠ found.name) →
          (compile source names).fields.get? found.name = some spec := by
  refine ⟨append_locate h, found.spec, FieldSpec.rebuilds_read _ _ _, ?_, ?_⟩
  · intro progress isLast
    rw [fields_addSegment, h, Option.elim_some, Dict.get?_insert, if_pos rfl]
  · intro source earlier later hblank hsegments hlater
    exact get?_fields_compile hblank hsegments h hlater

-- A quoted marker, a marker with a quotation in it, second markers, markers without
-- an end, and a quotation without one.
theorem rebuilds_title_with_second_markers :
    let names := FieldSet.ofList ["title".toList]
    let before := "`ed%` ^p.^`pp.`^ %, %: % %x%y% % ".toList
    let after := " ^a^b^ %;% ^x `^".toList
    let segment := before ++ "title".toList ++ after
    locate names segment = some ⟨before, "title".toList, after⟩ ∧
      ∃ spec : FieldSpec,
        (compile segment names).fields.get? "title".toList = some spec ∧
        spec.Rebuilds before after ∧
        spec = {
          pre := [.text "ed% ".toList, .plural, .text [' '], .dependent,
            .text " %x%y% % ".toList]
          post := [.text " ^a^b^ ".toList, .dependent, .text " ^x ^".toList]
          dependentPre := some ", ".toList
          dependentPreAlternative := some ": ".toList
          dependentPost := some ";".toList
          singular := some "p.".toList
          plural := some "pp.".toList } := by
  intro names before after segment
  have hlocate : locate names segment = some ⟨before, "title".toList, after⟩ := by
    decide +kernel
  have hsegments : segments segment = [segment] := by decide +kernel
  have hspec : (compile segment names).fields.get? "title".toList = some {
      pre := [.text "ed% ".toList, .plural, .text [' '], .dependent, .text " %x%y% % ".toList]
      post := [.text " ^a^b^ ".toList, .dependent, .text " ^x ^".toList]
      dependentPre := some ", ".toList
      dependentPreAlternative := some ": ".toList
      dependentPost := some ";".toList
      singular := some "p.".toList
      plural := some "pp.".toList } := by
    decide +kernel
  obtain ⟨-, spec, hrebuilds, -, hcompiled⟩ :=
    exists_rebuilds_of_locate names segment ⟨before, "title".toList, after⟩ hlocate
  have hget := hcompiled segment [] [] (by decide +kernel) hsegments (by simp)
  obtain rfl := Option.some.inj (hget.symm.trans hspec)
  exact ⟨hlocate, _, hget, hrebuilds, rfl⟩

end Referencing.Template
