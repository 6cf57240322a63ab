import Referencing.Proofs.Markup.WellMarked
import Referencing.Record.Item
import Referencing.Template.Compiled

namespace Referencing

namespace Template

open Text Markup

-- The texts that stand in an affix besides markers.
def Affix.runs (affix : Affix) : List Text :=
  affix.flatMap fun
    | .text run => [run]
    | _ => []

-- The texts that the markers of a field choose between.
def FieldSpec.choices (spec : FieldSpec) : List Text :=
  spec.dependentPre.toList ++ spec.dependentPreAlternative.toList ++
    spec.dependentPost.toList ++ spec.dependentPostAlternative.toList ++
    spec.singular.toList ++ spec.plural.toList

def FieldSpec.texts (spec : FieldSpec) : List Text :=
  spec.pre.runs ++ spec.post.runs ++ spec.choices

def Pair.texts (pair : Pair) : List Text :=
  pair.opening :: pair.closing ::
    (pair.openingAlternative.toList ++ pair.closingAlternative.toList)

-- All that a template can print besides values.
def texts (template : Template) : List Text :=
  template.fields.entries.flatMap (·.2.texts) ++ template.pairs.flatMap Pair.texts ++
    template.preliminary.toList ++ template.ultimate.toList

end Template

open Text Markup Template

def Item.NoBrackets (item : Item) : Prop :=
  ∀ field value, item.get? field = some value → ∀ c ∈ value, isBracket c = false

theorem Item.noBrackets_iff {item : Item} :
    item.NoBrackets ↔ item.stored.entries.all fun entry => entry.2.all (!isBracket ·) := by
  simp only [List.all_eq_true, Bool.not_eq_true']
  constructor
  · rintro h ⟨field, value⟩ hentry
    by_cases hvalue : value = []
    · simp [hvalue]
    · refine h field value ?_
      rw [Item.get?, (item.stored.get?_eq_some_iff field value).2 hentry]
      simp [hvalue]
  · intro h field value hvalue
    have hstored := (Option.filter_eq_some_iff.1 hvalue).1
    exact h (field, value) ((item.stored.get?_eq_some_iff field value).1 hstored)

instance (item : Item) : Decidable item.NoBrackets :=
  decidable_of_iff _ Item.noBrackets_iff.symm

namespace Template

-- Every bracket of a template belongs to a marker.
def WellMarkedTexts (template : Template) : Prop :=
  ∀ text ∈ template.texts, WellMarked text

instance (template : Template) : Decidable template.WellMarkedTexts :=
  inferInstanceAs (Decidable (∀ text ∈ template.texts, WellMarked text))

theorem wellMarked_getD {texts : List Text} (h : ∀ text ∈ texts, WellMarked text)
    {option : Option Text} (hmem : ∀ text ∈ option, text ∈ texts) :
    WellMarked (option.getD []) := by
  cases option with
  | none => exact .nil
  | some text => exact h text (hmem text rfl)

theorem wellMarked_resolve {affix : Affix} {dependent plural : Text}
    (h : ∀ text ∈ affix.runs, WellMarked text) (hdependent : WellMarked dependent)
    (hplural : WellMarked plural) : WellMarked (affix.resolve dependent plural) := by
  induction affix with
  | nil => exact .nil
  | cons part rest ih =>
    rw [Affix.runs, List.flatMap_cons, List.forall_mem_append] at h
    rw [Affix.resolve, List.flatMap_cons]
    refine WellMarked.append ?_ (ih h.2)
    cases part with
    | text run => exact h.1 run (List.mem_singleton_self run)
    | dependent => exact hdependent
    | plural => exact hplural

-- A marker prints one of the texts kept for it, or nothing.
theorem wellMarked_choices {spec : FieldSpec} (h : ∀ text ∈ spec.choices, WellMarked text) :
    (∀ side neighbour, WellMarked (spec.dependentText side neighbour)) ∧
      ∀ isPlural, WellMarked (spec.pluralText isPlural) := by
  constructor
  · intro side neighbour
    refine wellMarked_getD h fun text htext => ?_
    cases side <;> cases neighbour <;>
      simp_all [FieldSpec.choices, FieldSpec.dependent, FieldSpec.alternative]
  · intro isPlural
    refine wellMarked_getD h fun text htext => ?_
    cases isPlural <;> simp_all [FieldSpec.choices]

section

variable {template : Template} (h : template.WellMarkedTexts)

include h

theorem WellMarkedTexts.field {field : Text × FieldSpec}
    (hfield : field ∈ template.fields.entries) : ∀ text ∈ field.2.texts, WellMarked text := by
  intro text htext
  refine h text ?_
  simp only [texts, List.mem_append, List.mem_flatMap]
  exact .inl (.inl (.inl ⟨field, hfield, htext⟩))

theorem WellMarkedTexts.pair {pair : Pair} (hpair : pair ∈ template.pairs) :
    WellMarked pair.opening ∧ WellMarked pair.closing ∧
      WellMarked (pair.openingAlternative.getD []) ∧
      WellMarked (pair.closingAlternative.getD []) := by
  have hpairs : ∀ text ∈ pair.texts, WellMarked text := by
    intro text htext
    refine h text ?_
    simp only [texts, List.mem_append, List.mem_flatMap]
    exact .inl (.inl (.inr ⟨pair, hpair, htext⟩))
  exact ⟨hpairs _ (by simp [Pair.texts]), hpairs _ (by simp [Pair.texts]),
    wellMarked_getD hpairs (by simp +contextual [Pair.texts]),
    wellMarked_getD hpairs (by simp +contextual [Pair.texts])⟩

theorem WellMarkedTexts.preliminary : WellMarked (template.preliminary.getD []) :=
  wellMarked_getD h (by simp +contextual [texts])

theorem WellMarkedTexts.ultimate : WellMarked (template.ultimate.getD []) :=
  wellMarked_getD h (by simp +contextual [texts])

-- Whatever markers choose, a side is printed with complete markers.
theorem WellMarkedTexts.resolve {field : Text × FieldSpec}
    (hfield : field ∈ template.fields.entries) (side : Side) (neighbour isPlural : Bool) :
    WellMarked (field.2.resolve side neighbour isPlural) := by
  have hfields := h.field hfield
  rw [FieldSpec.texts, List.forall_mem_append, List.forall_mem_append] at hfields
  obtain ⟨⟨hpre, hpost⟩, hchoices⟩ := hfields
  obtain ⟨hdependent, hplural⟩ := wellMarked_choices hchoices
  refine wellMarked_resolve ?_ (hdependent side neighbour) (hplural isPlural)
  cases side with
  | pre => exact hpre
  | post => exact hpost

end

end Template

end Referencing
