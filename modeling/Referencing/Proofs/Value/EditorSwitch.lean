import Referencing.Proofs.Template.Keeping
import Referencing.Proofs.Template.WellFormed
import Referencing.Value.Prepared

namespace Referencing

-- Keys are distinct, so that one key makes one entry.
theorem Dict.entries_of_forall_key {α : Type} (dict : Dict α) {key : Text}
    (h : ∀ entry ∈ dict.entries, entry.1 = key) :
    dict.entries = [] ∨ ∃ value, dict.entries = [(key, value)] := by
  obtain ⟨entries, hdistinct⟩ := dict
  rcases entries with _ | ⟨⟨first, value⟩, _ | ⟨⟨second, other⟩, rest⟩⟩
  · exact .inl rfl
  · obtain rfl : first = key := h (first, value) List.mem_cons_self
    exact .inr ⟨value, rfl⟩
  · have hfirst : first = key := h (first, value) (by simp)
    have hsecond : second = key := h (second, other) (by simp)
    simp [hfirst, hsecond] at hdistinct

namespace Template

theorem name_mem_of_mem_fields {source : Text} {names : FieldSet} {field : Text × FieldSpec}
    (h : field ∈ (compile source names).fields.entries) : field.1 ∈ names.names := by
  unfold compile at h
  split at h
  · simp [blank, Dict.empty] at h
  · simp only [] at h
    split at h
    · simp [Progress.finishWithoutField, blank, Dict.empty] at h
    · exact ((Progress.Sound.start names).addSegments (segments source)).known field h

theorem ultimate_compile_of_no_field {source : Text} {names : FieldSet}
    (h : (compile source names).fields.entries = []) : (compile source names).ultimate = none := by
  unfold compile at h ⊢
  split
  · rfl
  · next hblank =>
    simp only [hblank] at h ⊢
    split
    · rfl
    · next hfields =>
      simp only [if_neg hfields] at h
      exact absurd h hfields

end Template

namespace Value

-- The fields with a layout of their own.
def laidOutFields : List Text :=
  ["title", "shortTitle", "date", "edition", "pages", "runningTime"].map String.toList

section Frame

variable {field : Text}

theorem get?_put_of_ne {name : String} (h : field ≠ name.toList) (value : Text)
    (prepared : Prepared) :
    (prepared.put name value).item.get? field = prepared.item.get? field := by
  rw [Prepared.put, Item.get?_insert, if_neg h]

theorem get?_putSome_of_ne {name : String} (h : field ≠ name.toList) (value : Option Text)
    (prepared : Prepared) :
    (prepared.putSome name value).item.get? field = prepared.item.get? field := by
  cases value with
  | none => rfl
  | some value => exact get?_put_of_ne h value prepared

theorem get?_putPages_of_ne (h : field ≠ "pages".toList) (pages : Option Pages)
    (prepared : Prepared) :
    (pages.elim prepared (prepared.putPages ·)).item.get? field = prepared.item.get? field := by
  cases pages with
  | none => rfl
  | some pages => exact get?_put_of_ne h pages.text (prepared.mark "pages" pages.isPlural)

theorem get?_withValues (style : Style) (context : Context) (resource : Resource)
    (prepared : Prepared) (h : field ∉ laidOutFields) :
    (withValues style context resource prepared).item.get? field = prepared.item.get? field := by
  simp only [laidOutFields, List.map_cons, List.map_nil, List.mem_cons, List.not_mem_nil, or_false,
    not_or] at h
  obtain ⟨htitle, hshortTitle, hdate, hedition, hpages, hrunningTime⟩ := h
  rw [withValues, get?_putSome_of_ne hrunningTime, get?_putPages_of_ne hpages,
    get?_putSome_of_ne hedition, get?_putSome_of_ne hdate, get?_putSome_of_ne hshortTitle,
    get?_putSome_of_ne htitle]

theorem get?_withCreators_of_none (style : Style) (context : Context) {resource : Resource}
    (prepared : Prepared) (h : resource.creators? field = none) :
    (withCreators style context resource prepared).item.get? field = prepared.item.get? field := by
  have hothers : ∀ entry ∈ resource.creatorLists.entries.filter (·.2 ≠ []), field ≠ entry.1 := by
    rintro ⟨other, creators⟩ hentry rfl
    obtain ⟨hmem, hcreators⟩ := List.mem_filter.1 hentry
    rw [Resource.creators?, (Dict.get?_eq_some_iff _ _ _).2 hmem, Option.filter_some,
      if_pos hcreators] at h
    cases h
  unfold withCreators
  generalize resource.creatorLists.entries.filter (·.2 ≠ []) = lists at hothers ⊢
  induction lists generalizing prepared with
  | nil => rfl
  | cons entry rest ih =>
    rw [List.forall_mem_cons] at hothers
    rw [List.foldl_cons, ih _ hothers.2]
    exact (Item.get?_insert _ _ _ _).trans (if_neg hothers.1)

theorem get?_entered_of_none {resource : Resource} (h : resource.values.get? field = none) :
    (entered resource).item.get? field = none := by
  have hothers : ∀ entry ∈ resource.values.toList.filter (!consumedFields.contains ·.1),
      entry.1 ≠ field := by
    rintro entry hentry rfl
    rw [Item.get?_eq_some_iff.2 (List.mem_of_mem_filter hentry)] at h
    cases h
  rw [entered, Item.ofList, Item.get?, Dict.ofList, Dict.get?_foldl_insert_of_forall_ne hothers]
  rfl

end Frame

-- What is prepared for the bibliography before editors may be moved.
def unswitched (style : Style) (resource : Resource) : Prepared :=
  withCreators style .bibliography resource (entered resource)

theorem get?_unswitched_of_none (style : Style) {resource : Resource} {field : Text}
    (hvalue : resource.values.get? field = none) (hcreators : resource.creators? field = none) :
    (unswitched style resource).item.get? field = none := by
  rw [unswitched, get?_withCreators_of_none _ _ _ hcreators, get?_entered_of_none hvalue]

section Switching

variable {style : Style} {switch : EditorSwitch} {resource : Resource} {editors : CreatorList}

-- The template that editors are moved with.
def switchTemplate (switch : EditorSwitch) : Template :=
  Template.compile switch.template (.ofList ["editor".toList])

theorem prepare_of_editors (hswitch : style.bibliography.editorSwitch = some switch)
    (hauthors : (unswitched style resource).item.get? "creator1".toList = none)
    (heditors : resource.creators? "creator2".toList = some editors) :
    prepare style (.ofStyle style) .bibliography resource =
      withValues style .bibliography resource
        ((((unswitched style resource).erase "creator2").mark "creator2" false).putCreators
          "creator1".toList (switchedEditors style (switchTemplate switch) editors)) := by
  have hcompiled : (CompiledStyle.ofStyle style).editorSwitch = some (switchTemplate switch) := by
    rw [CompiledStyle.ofStyle, hswitch]
    rfl
  have hnone : (unswitched style resource).item.has "creator1".toList = false := by
    rw [Item.has, hauthors]
    rfl
  have hswitched : switchEditors style (.ofStyle style) resource (unswitched style resource) =
      (((unswitched style resource).erase "creator2").mark "creator2" false).putCreators
        "creator1".toList (switchedEditors style (switchTemplate switch) editors) := by
    rw [switchEditors, if_neg (Bool.eq_false_iff.1 hnone), heditors, hcompiled]
  rw [← hswitched]
  rfl

theorem creators_prepare (hswitch : style.bibliography.editorSwitch = some switch)
    (hauthors : (unswitched style resource).item.get? "creator1".toList = none)
    (heditors : resource.creators? "creator2".toList = some editors) :
    let prepared := prepare style (.ofStyle style) .bibliography resource
    let printed := (switchedEditors style (switchTemplate switch) editors).text
    (prepared.item.get? "creator1".toList = if printed = [] then none else some printed) ∧
      prepared.item.get? "creator2".toList = none := by
  have hfirst : "creator1".toList ∉ laidOutFields := by decide
  have hsecond : "creator2".toList ∉ laidOutFields := by decide
  have hne : "creator2".toList ≠ "creator1".toList := by decide
  simp only [prepare_of_editors hswitch hauthors heditors]
  constructor
  · rw [get?_withValues _ _ _ _ hfirst]
    exact (Item.get?_insert _ _ _ _).trans (if_pos rfl)
  · rw [get?_withValues _ _ _ _ hsecond]
    refine (Item.get?_insert _ _ _ _).trans ((if_neg hne).trans ?_)
    exact (Item.get?_erase _ _ _).trans (if_pos rfl)

theorem entries_switchTemplate (switch : EditorSwitch) :
    (switchTemplate switch).fields.entries = [] ∨
      ∃ spec, (switchTemplate switch).fields.entries = [("editor".toList, spec)] := by
  refine Dict.entries_of_forall_key _ fun field hfield => ?_
  have hname : field.1 ∈ (Template.FieldSet.ofList ["editor".toList]).names :=
    Template.name_mem_of_mem_fields hfield
  exact List.mem_singleton.1 hname

theorem keeps_switchedEditors (hfield : (switchTemplate switch).fields.contains "editor".toList)
    (htext : (layoutCreators style.bibliography.primary none editors).text ≠ []) :
    Template.Keeps (layoutCreators style.bibliography.primary none editors).text
      (switchedEditors style (switchTemplate switch) editors).text := by
  rcases entries_switchTemplate switch with hentries | ⟨spec, hentries⟩
  · rw [Dict.contains, Dict.keys, hentries] at hfield
    cases hfield
  · have hfirst : (switchTemplate switch).fields.entries = [] ++ ("editor".toList, spec) :: [] :=
      hentries
    refine Template.keeps_render _ hfirst (by simp) ?_
    exact (Item.get?_insert .empty _ _ _).trans ((if_pos rfl).trans (if_neg htext))

theorem text_switchedEditors_of_no_field
    (hfield : (switchTemplate switch).fields.contains "editor".toList = false) :
    (switchedEditors style (switchTemplate switch) editors).text =
      Text.trim (Template.collapseSpaces ((switchTemplate switch).preliminary.getD [])) := by
  rcases entries_switchTemplate switch with hentries | ⟨spec, hentries⟩
  · exact Template.render_of_no_field hentries (Template.ultimate_compile_of_no_field hentries) _ _
  · rw [Dict.contains, Dict.keys, hentries] at hfield
    cases hfield

-- Editors without authors take the place of the authors, as the text of the
-- template, and leave their own. Their names stay together there if the template
-- has a place for them; a template without one prints its own text alone.
theorem prepare_moves_editors (hswitch : style.bibliography.editorSwitch = some switch)
    (hauthors : (unswitched style resource).item.get? "creator1".toList = none)
    (heditors : resource.creators? "creator2".toList = some editors)
    (htext : (layoutCreators style.bibliography.primary none editors).text ≠ []) :
    let template := switchTemplate switch
    let names := (layoutCreators style.bibliography.primary none editors).text
    let prepared := prepare style (.ofStyle style) .bibliography resource
    prepared.item.get? "creator2".toList = none ∧
      ∃ printed,
        (prepared.item.get? "creator1".toList = if printed = [] then none else some printed) ∧
        (template.fields.contains "editor".toList →
          Template.Keeps names printed ∧ (Text.isBlankText names = false → printed ≠ [])) ∧
        (template.fields.contains "editor".toList = false →
          printed = Text.trim (Template.collapseSpaces (template.preliminary.getD []))) := by
  obtain ⟨hfirst, hsecond⟩ := creators_prepare hswitch hauthors heditors
  refine ⟨hsecond, _, hfirst, fun hfield => ?_, text_switchedEditors_of_no_field⟩
  have hkeeps := keeps_switchedEditors hfield htext
  exact ⟨hkeeps, hkeeps.ne_nil⟩

end Switching

-- A style that moves editors with a template, and a book that has editors only.
def switchingStyle (template : String) : Style where
  bibliography := { editorSwitch := some ⟨template.toList⟩ }

def editedBook (editors : CreatorList) : Resource where
  type := "book".toList
  creatorLists := .ofList [("creator2".toList, editors)]

theorem prepare_moves_two_editors :
    let style := switchingStyle "editor ^(ed.)^(eds.)^"
    let editors := [{ surname := "Smith".toList, given := "Jane".toList },
      { surname := "Doe".toList, given := "John".toList }]
    let prepared := prepare style (.ofStyle style) .bibliography (editedBook editors)
    prepared.item.get? "creator2".toList = none ∧
      ∃ printed, prepared.item.get? "creator1".toList = some printed ∧
        Template.Keeps "Smith, Jane and John Doe".toList printed := by
  intro style editors prepared
  have hauthors : (unswitched style (editedBook editors)).item.get? "creator1".toList = none :=
    get?_unswitched_of_none style rfl (by decide)
  have heditors : (editedBook editors).creators? "creator2".toList = some editors := by decide
  have hnames : (layoutCreators style.bibliography.primary none editors).text =
      "Smith, Jane and John Doe".toList := by decide +kernel
  obtain ⟨hsecond, printed, hfirst, hkeeps, -⟩ :=
    prepare_moves_editors rfl hauthors heditors (by rw [hnames]; decide)
  obtain ⟨hkept, hprinted⟩ := hkeeps (by decide +kernel)
  rw [hnames] at hkept hprinted
  exact ⟨hsecond, printed, hfirst.trans (if_neg (hprinted (by decide))), hkept⟩

-- Names are lost with a template that has no place for them, and names of nothing
-- but spaces are trimmed away.
theorem prepare_loses_editors :
    (let style := switchingStyle "(eds.)"
      let editors := [{ surname := "Smith".toList, given := "Jane".toList }]
      let names := (layoutCreators style.bibliography.primary none editors).text
      let prepared := prepare style (.ofStyle style) .bibliography (editedBook editors)
      (unswitched style (editedBook editors)).item.get? "creator1".toList = none ∧
        (editedBook editors).creators? "creator2".toList = some editors ∧
        names = "Smith, Jane".toList ∧
        ¬∃ printed, (prepared.item.get? "creator1".toList = some printed ∨
            prepared.item.get? "creator2".toList = some printed) ∧
          Template.Keeps names printed) ∧
    (let style : Style :=
        { bibliography :=
            { primary := { twoCreatorsSeparator := [' '] }, editorSwitch := some ⟨"editor".toList⟩ } }
      let names := (layoutCreators style.bibliography.primary none [{}, {}]).text
      let prepared := prepare style (.ofStyle style) .bibliography (editedBook [{}, {}])
      (unswitched style (editedBook [{}, {}])).item.get? "creator1".toList = none ∧
        (editedBook [{}, {}]).creators? "creator2".toList = some [{}, {}] ∧ names = [' '] ∧
        prepared.item.get? "creator1".toList = none ∧
        prepared.item.get? "creator2".toList = none) := by
  refine ⟨?_, by decide +kernel⟩
  intro style editors names prepared
  have hfirst : prepared.item.get? "creator1".toList = some "(eds.)".toList := by decide +kernel
  have hsecond : prepared.item.get? "creator2".toList = none := by decide +kernel
  refine ⟨by decide +kernel, by decide, by decide +kernel, ?_⟩
  rintro ⟨printed, hprinted | hprinted, hkeeps⟩
  · obtain rfl := Option.some.inj (hfirst.symm.trans hprinted)
    have hlost : ¬Template.firm names <:+: Template.firm "(eds.)".toList := by decide +kernel
    exact hlost hkeeps.firm_isInfix
  · rw [hsecond] at hprinted
    cases hprinted

end Value

end Referencing
