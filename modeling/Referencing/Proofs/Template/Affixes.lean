import Mathlib.Data.List.Chain
import Referencing.Proofs.Template.Lexemes
import Referencing.Template.Affix

namespace Referencing.Template

open Text

def Part.isText : Part → Bool
  | .text _ => true
  | _ => false

-- A part written as in a template, the markers with the texts that their field
-- keeps for them.
def Part.rebuilt (spec : FieldSpec) (side : Side) : Part → Text
  | .text run => run
  | .dependent => (spec.dependent side).elim [] fun primary =>
      (Lexeme.dependent primary (spec.alternative side)).spelling
  | .plural => spec.singular.elim [] fun one =>
      spec.plural.elim [] fun many => (Lexeme.plural one many).spelling

def Affix.rebuilt (spec : FieldSpec) (side : Side) (affix : Affix) : Text :=
  affix.flatMap (Part.rebuilt spec side)

-- A field with the texts around it. On either side no text is empty, and markers stand
-- between two texts.
structure FieldSpec.WellFormed (spec : FieldSpec) : Prop where
  nonEmpty : ∀ side, Part.text [] ∉ spec.affix side
  apart : ∀ side, (spec.affix side).IsChain fun left right =>
    ¬(left.isText = true ∧ right.isText = true)
  -- A side has a dependent marker exactly if it has the text for one, and at most one.
  dependent : ∀ side, .dependent ∈ spec.affix side ↔ (spec.dependent side).isSome = true
  dependents : ∀ side, (spec.affix side).count .dependent ≤ 1
  alternative : ∀ side, (spec.alternative side).isSome = true →
    (spec.dependent side).isSome = true
  -- The two sides share one plural marker, which is there exactly if both its texts are.
  plural : .plural ∈ spec.pre ++ spec.post ↔
    spec.singular.isSome = true ∧ spec.plural.isSome = true
  plurals : (spec.pre ++ spec.post).count .plural ≤ 1
  together : spec.singular.isSome = spec.plural.isSome

-- Whether a diagnostic is about a field and what stands around it.
def Diagnostic.isAboutField : Diagnostic → Bool
  | .unterminatedDependent _ => true
  | .unterminatedPlural _ => true
  | .duplicateMarker .. => true
  | .duplicateField _ => true
  | _ => false

section Pushing

variable {affix : Affix}

theorem pushText_cases (affix : Affix) (run : Text) :
    (run = [] ∧ affix.pushText run = affix) ∨
      (∃ init last, run ≠ [] ∧ affix = init ++ [.text last] ∧
        affix.pushText run = init ++ [.text (last ++ run)]) ∨
      (run ≠ [] ∧ (∀ last ∈ affix.getLast?, last.isText = false) ∧
        affix.pushText run = affix ++ [.text run]) := by
  by_cases hrun : run = []
  · exact .inl ⟨hrun, if_pos hrun⟩
  · rcases List.eq_nil_or_concat affix with rfl | ⟨init, last, rfl⟩
    · exact .inr (.inr ⟨hrun, by simp, by simp [Affix.pushText, hrun]⟩)
    · rw [List.concat_eq_append]
      cases last with
      | text last => exact .inr (.inl ⟨init, last, hrun, rfl, by simp [Affix.pushText, hrun]⟩)
      | dependent =>
        exact .inr (.inr ⟨hrun, by simp [Part.isText], by simp [Affix.pushText, hrun]⟩)
      | plural =>
        exact .inr (.inr ⟨hrun, by simp [Part.isText], by simp [Affix.pushText, hrun]⟩)

theorem rebuilt_pushText (spec : FieldSpec) (side : Side) (affix : Affix) (run : Text) :
    (affix.pushText run).rebuilt spec side = affix.rebuilt spec side ++ run := by
  obtain ⟨rfl, hpush⟩ | ⟨init, last, -, rfl, hpush⟩ | ⟨-, -, hpush⟩ := pushText_cases affix run <;>
    simp [hpush, Affix.rebuilt, Part.rebuilt]

theorem rebuilt_append (spec : FieldSpec) (side : Side) (left right : Affix) :
    Affix.rebuilt spec side (left ++ right) = left.rebuilt spec side ++ right.rebuilt spec side :=
  List.flatMap_append

theorem count_pushText {marker : Part} (h : marker.isText = false) (affix : Affix) (run : Text) :
    (affix.pushText run).count marker = affix.count marker := by
  have hne : ∀ text, Part.text text ≠ marker := by
    rintro text rfl
    contradiction
  obtain ⟨-, hpush⟩ | ⟨init, last, -, rfl, hpush⟩ | ⟨-, -, hpush⟩ := pushText_cases affix run <;>
    simp [hpush, hne]

theorem nonEmpty_pushText (h : Part.text [] ∉ affix) (run : Text) :
    Part.text [] ∉ affix.pushText run := by
  obtain ⟨-, hpush⟩ | ⟨init, last, hrun, rfl, hpush⟩ | ⟨hrun, -, hpush⟩ := pushText_cases affix run
  · rwa [hpush]
  · simp_all
  · simp_all [Ne.symm hrun]

theorem apart_pushText
    (h : affix.IsChain fun left right => ¬(left.isText = true ∧ right.isText = true))
    (run : Text) :
    (affix.pushText run).IsChain fun left right =>
      ¬(left.isText = true ∧ right.isText = true) := by
  obtain ⟨-, hpush⟩ | ⟨init, last, -, rfl, hpush⟩ | ⟨-, hlast, hpush⟩ := pushText_cases affix run
  · rwa [hpush]
  · rw [List.isChain_append] at h
    rw [hpush, List.isChain_append]
    refine ⟨h.1, .singleton _, fun left hleft right hright => ?_⟩
    obtain rfl := Option.some.inj hright
    exact h.2.2 left hleft (.text last) rfl
  · rw [hpush, List.isChain_append]
    refine ⟨h, .singleton _, fun left hleft right _ hboth => ?_⟩
    rw [hlast left hleft] at hboth
    exact absurd hboth.1 Bool.false_ne_true

theorem apart_pushMarker
    (h : affix.IsChain fun left right => ¬(left.isText = true ∧ right.isText = true))
    {marker : Part} (hmarker : marker.isText = false) :
    (affix.pushMarker marker).IsChain fun left right =>
      ¬(left.isText = true ∧ right.isText = true) := by
  rw [Affix.pushMarker, List.isChain_append]
  refine ⟨h, .singleton _, fun left _ right hright hboth => ?_⟩
  obtain rfl := Option.some.inj hright
  rw [hmarker] at hboth
  exact absurd hboth.2 Bool.false_ne_true

-- What is rebuilt depends on the texts of the markers that are there.
theorem rebuilt_congr {spec other : FieldSpec} {side : Side}
    (hdependent : .dependent ∈ affix → spec.dependent side = other.dependent side ∧
      spec.alternative side = other.alternative side)
    (hplural : .plural ∈ affix → spec.singular = other.singular ∧ spec.plural = other.plural) :
    affix.rebuilt spec side = affix.rebuilt other side := by
  refine List.flatMap_congr fun part hpart => ?_
  cases part with
  | text run => rfl
  | dependent => rw [Part.rebuilt, (hdependent hpart).1, (hdependent hpart).2, Part.rebuilt]
  | plural => rw [Part.rebuilt, (hplural hpart).1, (hplural hpart).2, Part.rebuilt]

end Pushing

section Setting

variable (spec : FieldSpec) (side : Side) (primary : Text) (alternative : Option Text)

@[simp] theorem dependent_setDependent :
    (spec.setDependent side primary alternative).dependent side = some primary := by
  cases side <;> rfl

@[simp] theorem alternative_setDependent :
    (spec.setDependent side primary alternative).alternative side = alternative := by
  cases side <;> rfl

@[simp] theorem singular_setDependent :
    (spec.setDependent side primary alternative).singular = spec.singular := by
  cases side <;> rfl

@[simp] theorem plural_setDependent :
    (spec.setDependent side primary alternative).plural = spec.plural := by
  cases side <;> rfl

@[simp] theorem affix_setDependent (other : Side) :
    (spec.setDependent side primary alternative).affix other = spec.affix other := by
  cases side <;> cases other <;> rfl

theorem dependent_setDependent_of_ne {other : Side} (h : other ≠ side) :
    (spec.setDependent side primary alternative).dependent other = spec.dependent other := by
  cases side <;> cases other <;> first | rfl | contradiction

theorem alternative_setDependent_of_ne {other : Side} (h : other ≠ side) :
    (spec.setDependent side primary alternative).alternative other = spec.alternative other := by
  cases side <;> cases other <;> first | rfl | contradiction

@[simp] theorem dependent_setPlural (one many : Text) :
    (spec.setPlural one many).dependent side = spec.dependent side := by
  cases side <;> rfl

@[simp] theorem alternative_setPlural (one many : Text) :
    (spec.setPlural one many).alternative side = spec.alternative side := by
  cases side <;> rfl

@[simp] theorem affix_setPlural (one many : Text) :
    (spec.setPlural one many).affix side = spec.affix side := by
  cases side <;> rfl

end Setting

end Referencing.Template
