import Referencing.Proofs.Template.CleanUp
import Referencing.Proofs.Text.Trimmed
import Referencing.Template.Compile

namespace Referencing

-- Both items have the same values for some fields. Neither the order of the entries
-- nor an entry without a value makes a difference.
def Item.AgreesOn (fields : List Text) (item other : Item) : Prop :=
  ∀ field ∈ fields, ∀ value, (field, value) ∈ item.toList ↔ (field, value) ∈ other.toList

-- The flags of the fields that are there are the same.
def Plurals.AgreesOn (fields : List Text) (item : Item) (plurals other : Plurals) : Prop :=
  ∀ field ∈ fields, item.has field → plurals.isPlural field = other.isPlural field

theorem Item.agreesOn_iff {fields : List Text} {item other : Item} :
    item.AgreesOn fields other ↔ ∀ field ∈ fields, item.get? field = other.get? field := by
  constructor
  · intro h field hfield
    refine Option.ext fun value => ?_
    rw [get?_eq_some_iff, get?_eq_some_iff]
    exact h field hfield value
  · intro h field hfield value
    rw [← get?_eq_some_iff, ← get?_eq_some_iff, h field hfield]

namespace Template

open Text

-- Spaces stand alone, and none stands at an end.
structure IsSpaced (text : Text) : Prop where
  trimmed : IsTrimmed text
  single : ¬[' ', ' '] <:+: text

theorem head?_collapseSpaces (text : Text) : (collapseSpaces text).head? = text.head? := by
  fun_induction collapseSpaces text with
  | case1 rest ih => rw [ih]; rfl
  | case2 c rest => rfl
  | case3 => rfl

theorem not_isInfix_collapseSpaces (text : Text) : ¬[' ', ' '] <:+: collapseSpaces text := by
  fun_induction collapseSpaces text with
  | case1 rest ih => exact ih
  | case2 c rest hspaces ih =>
    rw [List.infix_cons_iff, List.cons_prefix_cons, not_or]
    refine ⟨?_, ih⟩
    rintro ⟨rfl, after, hafter⟩
    have hhead := head?_collapseSpaces rest
    rw [← hafter] at hhead
    obtain ⟨others, rfl⟩ := List.head?_eq_some_iff.1 hhead.symm
    exact hspaces others rfl rfl
  | case3 => simp

theorem isSpaced_trim_collapseSpaces (text : Text) : IsSpaced (trim (collapseSpaces text)) where
  trimmed := isTrimmed_trim _
  single := fun h => not_isInfix_collapseSpaces text (h.trans (trim_isInfix _))

section Fields

variable {item other : Item} {plurals flags : Plurals}

-- A field is laid out from its own value and flag, and from whether the next one is
-- there; what came before it is handed on as text.
theorem slotsFrom_of_agreesOn {fields : List (Text × FieldSpec)}
    (hitem : item.AgreesOn (fields.map (·.1)) other)
    (hplurals : plurals.AgreesOn (fields.map (·.1)) item flags) (previous : Option Text)
    (adjacent : Bool) :
    slotsFrom item plurals previous adjacent fields =
      slotsFrom other flags previous adjacent fields := by
  induction fields generalizing previous adjacent with
  | nil => rfl
  | cons field rest ih =>
    obtain ⟨name, spec⟩ := field
    have hget : ∀ field ∈ (name, spec) :: rest, item.get? field.1 = other.get? field.1 :=
      fun field hfield => Item.agreesOn_iff.1 hitem field.1 (List.mem_map_of_mem hfield)
    have hrest := ih (fun field hfield => hitem field (List.mem_cons_of_mem _ hfield))
      (fun field hfield => hplurals field (List.mem_cons_of_mem _ hfield))
    have hnext : rest.head?.any (item.has ·.1) = rest.head?.any (other.has ·.1) := by
      cases rest with
      | nil => rfl
      | cons next rest =>
        have hvalue := hget next (by simp)
        simp only [List.head?_cons, Option.any_some, Item.has, hvalue]
    have hname := hget (name, spec) List.mem_cons_self
    simp only [slotsFrom, ← hname, ← hnext]
    cases hvalue : item.get? name with
    | none => exact congrArg _ (hrest previous false)
    | some value =>
      have hthere : item.has name := by rw [Item.has, hvalue]; rfl
      have hflag := hplurals name List.mem_cons_self hthere
      simp only [hflag, hrest]

theorem body_of_agreesOn {template : Template} (hitem : item.AgreesOn template.fieldNames other)
    (hplurals : plurals.AgreesOn template.fieldNames item flags) :
    body template item plurals = body template other flags := by
  have hslots : slots template item plurals = slots template other flags :=
    slotsFrom_of_agreesOn hitem hplurals none false
  rw [body, body, hslots]

-- A template sees nothing of an item but the values of its own fields, and nothing of
-- the flags but those of the fields that are there.
theorem render_of_agreesOn {template : Template}
    (hitem : item.AgreesOn template.fieldNames other)
    (hplurals : plurals.AgreesOn template.fieldNames item flags) :
    render template item plurals = render template other flags ∧
      IsSpaced (render template item plurals) := by
  have hbody := body_of_agreesOn hitem hplurals
  have hbefore : beforeUltimate template item plurals = beforeUltimate template other flags := by
    rw [beforeUltimate, beforeUltimate, hbody]
  have hclosing : closingText template item plurals = closingText template other flags := by
    rw [closingText, closingText, hbody, hbefore]
  constructor
  · rw [render_eq, render_eq, hbefore, hclosing]
  · rw [render_eq]
    exact isSpaced_trim_collapseSpaces _

-- The same essay entered in another order, with an empty date and with more fields.
theorem render_essay_entered_twice :
    let template := compile "creator1%, %. %|year1. |title, |^p.^pp.^pages".toList .bibliography
    let item := Item.ofList ([("creator1", "Smith"), ("title", "On  Spaces"),
      ("pages", "4-5")].map (Prod.map String.toList String.toList))
    let other := Item.ofList ([("pages", "4-5"), ("volume", "3"), ("year1", ""),
      ("title", "On  Spaces"), ("creator1", "Smith")].map (Prod.map String.toList String.toList))
    let plurals : Plurals := .ofList [("pages".toList, true)]
    let flags : Plurals :=
      .ofList [("year1".toList, true), ("pages".toList, true), ("volume".toList, true)]
    item.AgreesOn template.fieldNames other ∧
      plurals.AgreesOn template.fieldNames item flags ∧
      render template item plurals = "Smith. On Spaces, pp.4-5".toList ∧
      render template item plurals = render template other flags := by
  intro template item other plurals flags
  have hitem : item.AgreesOn template.fieldNames other :=
    Item.agreesOn_iff.2 (by decide +kernel)
  have hplurals : plurals.AgreesOn template.fieldNames item flags := by
    unfold Plurals.AgreesOn
    decide +kernel
  exact ⟨hitem, hplurals, by decide +kernel, (render_of_agreesOn hitem hplurals).1⟩

end Fields

end Template

end Referencing
