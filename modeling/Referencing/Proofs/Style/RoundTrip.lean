import Referencing.Loading
import Referencing.Proofs.Data.Forms
import Referencing.Style.Bundled

namespace Referencing

open Form

-- The counts of a style have 64 bits.
structure Truncation.InRange (truncation : Truncation) : Prop where
  moreThan : truncation.moreThan < Text.largeBound
  limit : truncation.limit < Text.largeBound

def Bundle.InRange (bundle : Bundle) : Prop :=
  ∀ truncation ∈ bundle.truncation, truncation.InRange

-- Every choice has a name, and no name stands for two.
theorem TitleCase.restores_form (value : TitleCase) : TitleCase.form.Restores value :=
  restores_choice (by cases value <;> decide) (by decide)

theorem EditionForm.restores_form (value : EditionForm) : EditionForm.form.Restores value :=
  restores_choice (by cases value <;> decide) (by decide)

theorem PageForm.restores_form (value : PageForm) : PageForm.form.Restores value :=
  restores_choice (by cases value <;> decide) (by decide)

theorem RunningTimeForm.restores_form (value : RunningTimeForm) :
    RunningTimeForm.form.Restores value :=
  restores_choice (by cases value <;> decide) (by decide)

theorem DayForm.restores_form (value : DayForm) : DayForm.form.Restores value :=
  restores_choice (by cases value <;> decide) (by decide)

theorem MonthForm.restores_form (value : MonthForm) : MonthForm.form.Restores value :=
  restores_choice (by cases value <;> decide) (by decide)

theorem DateOrder.restores_form (value : DateOrder) : DateOrder.form.Restores value :=
  restores_choice (by cases value <;> decide) (by decide)

theorem NameOrder.restores_form (value : NameOrder) : NameOrder.form.Restores value :=
  restores_choice (by cases value <;> decide) (by decide)

theorem InitialsForm.restores_form (value : InitialsForm) : InitialsForm.form.Restores value :=
  restores_choice (by cases value <;> decide) (by decide)

theorem GivenForm.restores_form (value : GivenForm) : GivenForm.form.Restores value :=
  restores_choice (by cases value <;> decide) (by decide)

theorem RepeatPolicy.restores_form (value : RepeatPolicy) : RepeatPolicy.form.Restores value :=
  restores_choice (by cases value <;> decide) (by decide)

theorem CitationMode.restores_form (value : CitationMode) : CitationMode.form.Restores value :=
  restores_choice (by cases value <;> decide) (by decide)

theorem EndnoteStyle.restores_form (value : EndnoteStyle) : EndnoteStyle.form.Restores value :=
  restores_choice (by cases value <;> decide) (by decide)

theorem SameIdOrder.restores_form (value : SameIdOrder) : SameIdOrder.form.Restores value :=
  restores_choice (by cases value <;> decide) (by decide)

theorem Ambiguity.restores_form (value : Ambiguity) : Ambiguity.form.Restores value :=
  restores_choice (by cases value <;> decide) (by decide)

theorem DateOptions.restores_form (dates : DateOptions) : form.Restores dates := by
  refine restores_recordWith (by decide) ?_
  refine .step (.always _ (DayForm.restores_form _)) ?_
  refine .step (.always _ (restores_flag _)) ?_
  refine .step (.always _ (MonthForm.restores_form _)) ?_
  refine .step (.always _ (DateOrder.restores_form _)) ?_
  refine .step (.always _ (restores_text _)) ?_
  have hnames : (list text).Restores dates.monthNames := restores_list fun _ _ => restores_text _
  exact .step (.sparing hnames.read (fun _ => List.isEmpty_iff.1) rfl) .done

theorem Truncation.restores_form {truncation : Truncation} (h : truncation.InRange) :
    form.Restores truncation := by
  refine restores_recordWith (by decide) ?_
  refine .step (.always _ (restores_natural h.moreThan)) ?_
  refine .step (.always _ (restores_natural h.limit)) ?_
  refine .step (.always _ (restores_text _)) ?_
  exact .step (.always _ (restores_flag _)) .done

theorem Bundle.restores_form {bundle : Bundle} (h : bundle.InRange) : form.Restores bundle := by
  refine restores_recordWith (by decide) ?_
  refine .step (.always _ (NameOrder.restores_form _)) ?_
  refine .step (.always _ (NameOrder.restores_form _)) ?_
  refine .step (.always _ (InitialsForm.restores_form _)) ?_
  refine .step (.always _ (GivenForm.restores_form _)) ?_
  refine .step (.always _ (restores_flag _)) ?_
  refine .step (.always _ (restores_text _)) ?_
  refine .step (.always _ (restores_text _)) ?_
  refine .step (.always _ (restores_text _)) ?_
  refine .step (.always _ (restores_text _)) ?_
  refine .step (.optional (fun _ hgiven => Truncation.restores_form (h _ hgiven)) rfl) ?_
  refine .step (.always _ (RepeatPolicy.restores_form _)) ?_
  exact .step (.always _ (restores_text _)) .done

theorem Rewrite.restores_form (rule : Rewrite) : form.Restores rule := by
  refine restores_recordWith (by decide) ?_
  refine .step (.optional (fun _ _ => restores_text _) rfl) ?_
  refine .step (.always _ (restores_flag _)) ?_
  refine .step (.optional (fun _ _ => restores_text _) rfl) ?_
  refine .step (.always _ (restores_flag _)) ?_
  exact .step (.always _ (restores_flag _)) .done

theorem EditorSwitch.restores_form (switch : EditorSwitch) : form.Restores switch :=
  restores_recordWith (by decide) (.step (.always _ (restores_text _)) .done)

theorem BibliographyOptions.restores_form {options : BibliographyOptions}
    (hprimary : options.primary.InRange) (hother : options.other.InRange) :
    form.Restores options := by
  refine restores_recordWith (by decide) ?_
  refine .step (.always _ (Bundle.restores_form hprimary)) ?_
  refine .step (.always _ (Bundle.restores_form hother)) ?_
  refine .step (.always _ (TitleCase.restores_form _)) ?_
  refine .step (.always _ (DateOptions.restores_form _)) ?_
  refine .step (.always _ (EditionForm.restores_form _)) ?_
  refine .step (.always _ (PageForm.restores_form _)) ?_
  refine .step (.always _ (RunningTimeForm.restores_form _)) ?_
  refine .step (.optional (fun _ _ => EditorSwitch.restores_form _) rfl) ?_
  refine .step (.always _ (restores_dict fun _ _ => restores_text _)) ?_
  refine .step (.optional (fun _ _ => restores_text _) rfl) ?_
  have hrewrites : (dict (dict Rewrite.form)).Restores options.rewrites :=
    restores_dict fun _ _ => restores_dict fun _ _ => Rewrite.restores_form _
  refine .step (.sparing hrewrites.read (fun _ => Dict.eq_empty_of_isEmpty) rfl) ?_
  have hnames : (dict (list text)).Restores options.fieldNames :=
    restores_dict fun _ _ => restores_list fun _ _ => restores_text _
  exact .step (.sparing hnames.read (fun _ => Dict.eq_empty_of_isEmpty) rfl) .done

theorem FootnoteOptions.restores_form {options : FootnoteOptions}
    (hprimary : options.primary.InRange) (hother : options.other.InRange) :
    form.Restores options := by
  refine restores_recordWith (by decide) ?_
  refine .step (.always _ (Bundle.restores_form hprimary)) ?_
  refine .step (.always _ (Bundle.restores_form hother)) ?_
  exact .step (.always _ (restores_dict fun _ _ => restores_text _)) .done

theorem NoteMarker.restores_form (marker : NoteMarker) : form.Restores marker := by
  refine restores_recordWith (by decide) ?_
  refine .step (.always _ (restores_text _)) ?_
  refine .step (.always _ (restores_text _)) ?_
  exact .step (.always _ (restores_flag _)) .done

theorem CitationOptions.restores_form {options : CitationOptions}
    (h : options.creators.InRange) : form.Restores options := by
  refine restores_recordWith (by decide) ?_
  refine .step (.always _ (CitationMode.restores_form _)) ?_
  refine .step (.always _ (EndnoteStyle.restores_form _)) ?_
  refine .step (.always _ (SameIdOrder.restores_form _)) ?_
  refine .step (.always _ (Bundle.restores_form h)) ?_
  refine .step (.always _ (TitleCase.restores_form _)) ?_
  refine .step (.always _ (PageForm.restores_form _)) ?_
  refine .step (.always _ (restores_text _)) ?_
  refine .step (.optional (fun _ _ => restores_text _) rfl) ?_
  refine .step (.always _ (restores_flag _)) ?_
  refine .step (.optional (fun _ _ => restores_text _) rfl) ?_
  refine .step (.optional (fun _ _ => restores_text _) rfl) ?_
  refine .step (.optional (fun _ _ => restores_text _) rfl) ?_
  refine .step (.optional (fun _ _ => restores_text _) rfl) ?_
  refine .step (.optional (fun _ _ => restores_text _) rfl) ?_
  refine .step (.optional (fun _ _ => restores_text _) rfl) ?_
  have htypes : (dict text).Restores options.typeTemplates :=
    restores_dict fun _ _ => restores_text _
  refine .step (.sparing htypes.read (fun _ => Dict.eq_empty_of_isEmpty) rfl) ?_
  refine .step (.always _ (restores_text _)) ?_
  refine .step (.always _ (restores_text _)) ?_
  refine .step (.always _ (restores_text _)) ?_
  refine .step (.always _ (restores_text _)) ?_
  refine .step (.always _ (Ambiguity.restores_form _)) ?_
  refine .step (.always _ (restores_flag _)) ?_
  exact .step (.always _ (NoteMarker.restores_form _)) .done

theorem StyleInfo.restores_form (info : StyleInfo) : form.Restores info := by
  refine restores_recordWith (by decide) ?_
  refine .step (.optional (fun _ _ => restores_text _) rfl) ?_
  exact .step (.optional (fun _ _ => restores_text _) rfl) .done

namespace Style

theorem restores_form {style : Style} (h : ∀ role, (style.bundle role).InRange) :
    form.Restores style := by
  refine restores_recordWith (by decide) ?_
  refine .step (.always _ (StyleInfo.restores_form _)) ?_
  refine .step (.always _ (BibliographyOptions.restores_form (h .primary) (h .other))) ?_
  refine .step (.always _
    (FootnoteOptions.restores_form (h .footnotePrimary) (h .footnoteOther))) ?_
  exact .step (.always _ (CitationOptions.restores_form (h .citation))) .done

-- A style is read back from what is written for it, and from any text of that.
-- Dictionaries are equal only if their keys come in the same order.
theorem read_write_form {style : Style} (h : ∀ role, (style.bundle role).InRange) :
    form.read .json (form.write style) = some style ∧
      ∀ text, Json.parse? text = some (form.write style) →
        Loading.readJson? form text = some style := by
  have hread := (restores_form h).read
  refine ⟨hread, fun text hparse => ?_⟩
  rw [Loading.readJson?, hparse, Option.bind_some, hread]

theorem inRange_bundle_authorDate (role : Role) : (authorDate.bundle role).InRange := by
  intro truncation hgiven
  cases role with
  | primary =>
    cases hgiven
    exact ⟨by decide, by decide⟩
  | citation =>
    cases hgiven
    exact ⟨by decide, by decide⟩
  | other => cases hgiven
  | footnotePrimary => cases hgiven
  | footnoteOther => cases hgiven

theorem read_write_authorDate :
    form.read .json (form.write authorDate) = some authorDate ∧
      ∀ text, Json.parse? text = some (form.write authorDate) →
        Loading.readJson? form text = some authorDate :=
  read_write_form inRange_bundle_authorDate

end Style

end Referencing
