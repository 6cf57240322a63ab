import Referencing.Proofs.Template.Attaching
import Referencing.Proofs.Template.Thinning

namespace Referencing.Template

open Text Markup

-- The slots before any clean-up.
def plainSlotsFrom (item : Item) (plurals : Plurals) (adjacent : Bool) :
    List (Text × FieldSpec) → List (Option Slot)
  | [] => []
  | (name, spec) :: rest =>
    match item.get? name with
    | none => none :: plainSlotsFrom item plurals false rest
    | some value =>
      let next := rest.head?.any (item.has ·.1)
      some (Slot.ofSpec spec adjacent next (plurals.isPlural name) value) ::
        plainSlotsFrom item plurals true rest

def plainSlots (template : Template) (item : Item) (plurals : Plurals) : List (Option Slot) :=
  plainSlotsFrom item plurals false template.fields.entries

theorem mem_plainSlotsFrom {item : Item} {plurals : Plurals} {adjacent : Bool}
    {fields : List (Text × FieldSpec)} {slot : Slot}
    (h : some slot ∈ plainSlotsFrom item plurals adjacent fields) :
    ∃ field ∈ fields, ∃ previous next plural value, item.get? field.1 = some value ∧
      slot = Slot.ofSpec field.2 previous next plural value := by
  induction fields generalizing adjacent with
  | nil => simp [plainSlotsFrom] at h
  | cons field rest ih =>
    obtain ⟨name, spec⟩ := field
    rw [plainSlotsFrom] at h
    cases hvalue : item.get? name with
    | none =>
      simp only [hvalue, List.mem_cons, reduceCtorEq, false_or] at h
      obtain ⟨field, hfield, hslot⟩ := ih h
      exact ⟨field, List.mem_cons_of_mem _ hfield, hslot⟩
    | some value =>
      simp only [hvalue, List.mem_cons, Option.some.injEq] at h
      rcases h with rfl | h
      · exact ⟨(name, spec), List.mem_cons_self, _, _, _, value, hvalue, rfl⟩
      · obtain ⟨field, hfield, hslot⟩ := ih h
        exact ⟨field, List.mem_cons_of_mem _ hfield, hslot⟩

def plainBody (template : Template) (item : Item) (plurals : Plurals) : Text :=
  joined (attachAll template.pairs ((plainSlots template item plurals).map (·.map Slot.text)))

structure Slot.LosesMarks (slot kept : Slot) : Prop where
  pre : LosesMark slot.pre kept.pre
  value : LosesMark slot.value kept.value
  post : LosesMark slot.post kept.post

theorem Slot.losesMarks_tidy (previous : Option Text) (slot : Slot) :
    slot.LosesMarks (slot.tidy previous) where
  pre := losesMark_dropIdle _ _
  value := losesMark_dropRepeated _ _
  post := losesMark_dropIdle _ _

theorem Slot.LosesMarks.thinned {slot kept : Slot} (h : slot.LosesMarks kept) :
    Thinned isLoose slot.text kept.text :=
  (h.pre.thinned.append h.value.thinned).append h.post.thinned

theorem losesMarks_slotsFrom (item : Item) (plurals : Plurals) (previous : Option Text)
    (adjacent : Bool) (fields : List (Text × FieldSpec)) :
    List.Forall₂ (Option.Rel Slot.LosesMarks) (plainSlotsFrom item plurals adjacent fields)
      (slotsFrom item plurals previous adjacent fields) := by
  induction fields generalizing previous adjacent with
  | nil => exact .nil
  | cons field rest ih =>
    obtain ⟨name, spec⟩ := field
    simp only [plainSlotsFrom, slotsFrom]
    cases item.get? name with
    | none => exact .cons .none (ih previous false)
    | some value => exact .cons (.some (Slot.losesMarks_tidy _ _)) (ih _ true)

theorem losesMarks_slots (template : Template) (item : Item) (plurals : Plurals) :
    List.Forall₂ (Option.Rel Slot.LosesMarks) (plainSlots template item plurals)
      (slots template item plurals) :=
  losesMarks_slotsFrom item plurals none false template.fields.entries

theorem compatible_thinned : Compatible (Thinned isLoose) where
  nil := .refl []
  append := .append

theorem Pair.alike_refl {rel : Text → Text → Prop} (h : ∀ text, rel text text) (pair : Pair) :
    pair.Alike rel pair :=
  ⟨rfl, rfl, h _, h _, h _⟩

theorem thinned_body (template : Template) (item : Item) (plurals : Plurals) :
    Thinned isLoose (plainBody template item plurals) (body template item plurals) := by
  refine Alike.joined compatible_thinned (Alike.attachAll compatible_thinned ?_ ?_)
  · exact List.forall₂_same.2 fun pair _ => pair.alike_refl .refl
  · rw [Alike, List.forall₂_map_left_iff, List.forall₂_map_right_iff]
    refine (losesMarks_slots template item plurals).imp ?_
    intro slot kept hslot
    cases hslot with
    | none => exact .none
    | some hslot => exact .some hslot.thinned

theorem slotsFrom_of_none {item : Item} (plurals : Plurals) (previous : Option Text)
    (adjacent : Bool) {fields : List (Text × FieldSpec)}
    (h : ∀ field ∈ fields, item.get? field.1 = none) :
    slotsFrom item plurals previous adjacent fields = .replicate fields.length none := by
  induction fields generalizing adjacent with
  | nil => rfl
  | cons field rest ih =>
    obtain ⟨name, spec⟩ := field
    rw [List.forall_mem_cons] at h
    simp only [slotsFrom, h.1, ih false h.2, List.length_cons, List.replicate_succ]

-- Nothing stands before the first field that is there, so that it loses nothing at
-- its beginning but what its own affix repeats.
theorem joined_slotsFrom_ne_nil {item : Item} (plurals : Plurals) (adjacent : Bool)
    {fields : List (Text × FieldSpec)} (h : ∃ field ∈ fields, item.get? field.1 ≠ none) :
    joined ((slotsFrom item plurals none adjacent fields).map (·.map Slot.text)) ≠ [] := by
  induction fields generalizing adjacent with
  | nil => simp at h
  | cons field rest ih =>
    obtain ⟨name, spec⟩ := field
    cases hvalue : item.get? name with
    | none =>
      simp only [List.mem_cons, exists_eq_or_imp, hvalue, ne_eq, not_true_eq_false,
        false_or] at h
      simpa [slotsFrom, hvalue] using ih false h
    | some value =>
      have hne := Item.ne_nil_of_get? hvalue
      simp only [slotsFrom, hvalue, List.map_cons, joined_cons, Option.map_some, Option.getD_some,
        ne_eq, List.append_eq_nil_iff, not_and]
      intro hempty
      simp only [Slot.text, Slot.tidy, Option.bind_none, List.append_eq_nil_iff] at hempty
      obtain ⟨⟨hpre, hkept⟩, -⟩ := hempty
      rw [if_pos hpre] at hkept
      exact absurd hkept hne

theorem body_eq_nil_iff {template : Template} {item : Item} (plurals : Plurals) :
    body template item plurals = [] ↔
      ∀ field ∈ template.fields.entries, item.get? field.1 = none := by
  constructor
  · intro hempty field hfield
    by_contra hvalue
    have hsublist := joined_sublist_attachAll template.pairs
      ((slots template item plurals).map (·.map Slot.text))
    have hnil : joined (attachAll template.pairs
        ((slots template item plurals).map (·.map Slot.text))) = [] := hempty
    rw [hnil, List.sublist_nil] at hsublist
    exact joined_slotsFrom_ne_nil plurals false ⟨field, hfield, hvalue⟩ hsublist
  · intro hnone
    simp [body, slots, slotsFrom_of_none plurals none false hnone, attachAll_replicate_none]

-- Whether a closing text begins with punctuation that is idle where it would stand.
def isIdleAfter (text ultimate : Text) : Bool :=
  match lastVisible (trimEnd text), (trimStart ultimate).head? with
  | some last, some lead => isIdle last lead
  | _, _ => false

theorem isIdleAfter_of_lead {ultimate : Text} (text : Text)
    (h : ∀ c ∈ (trimStart ultimate).head?, ¬isPunctuation c) :
    isIdleAfter text ultimate = false := by
  unfold isIdleAfter
  split
  · next last lead _ hlead =>
    cases hidle : isIdle last lead with
    | false => rfl
    | true => exact absurd (isPunctuation_of_isIdle hidle) (h lead hlead)
  · rfl

theorem appendUltimate_eq (text ultimate : Text) :
    appendUltimate text ultimate = text ++ if isIdleAfter text ultimate then [] else ultimate := by
  unfold appendUltimate isIdleAfter
  cases lastVisible (trimEnd text) with
  | none => rfl
  | some last =>
    cases (trimStart ultimate).head? with
    | none => rfl
    | some lead => by_cases h : isIdle last lead <;> simp [h]

-- What the closing text stands behind.
def beforeUltimate (template : Template) (item : Item) (plurals : Plurals) : Text :=
  template.preliminary.getD [] ++ body template item plurals

-- The closing text, as far as it is printed.
def closingText (template : Template) (item : Item) (plurals : Plurals) : Text :=
  if template.preliminary.isNone && (body template item plurals).isEmpty then []
  else
    template.ultimate.elim [] fun ultimate =>
      if isIdleAfter (beforeUltimate template item plurals) ultimate then [] else ultimate

theorem render_eq (template : Template) (item : Item) (plurals : Plurals) :
    render template item plurals =
      trim (collapseSpaces
        (beforeUltimate template item plurals ++ closingText template item plurals)) := by
  by_cases h : (template.preliminary.isNone && (body template item plurals).isEmpty) = true
  · simp only [render, closingText, if_pos h]
    simp only [Bool.and_eq_true, Option.isNone_iff_eq_none, List.isEmpty_iff] at h
    simp [beforeUltimate, h.1, h.2, collapseSpaces, trim, trimStart, trimEnd]
  · simp only [render, closingText, if_neg h]
    cases template.ultimate with
    | none => rw [Option.elim_none, Option.elim_none, List.append_nil, beforeUltimate]
    | some ultimate =>
      rw [Option.elim_some, Option.elim_some, appendUltimate_eq, beforeUltimate]

theorem closingText_eq (template : Template) (item : Item) (plurals : Plurals) :
    closingText template item plurals = [] ∨
      closingText template item plurals = template.ultimate.getD [] := by
  unfold closingText
  split
  · exact .inl rfl
  · cases template.ultimate with
    | none => exact .inl rfl
    | some ultimate =>
      simp only [Option.elim_some, Option.getD_some]
      split
      · exact .inl rfl
      · exact .inr rfl

theorem thinned_render (template : Template) (item : Item) (plurals : Plurals) :
    Thinned isLoose
      (template.preliminary.getD [] ++ plainBody template item plurals ++
        closingText template item plurals)
      (render template item plurals) := by
  rw [render_eq]
  refine Thinned.trans ?_
    (((thinned_collapseSpaces _).trans (thinned_trim _)).mono isLoose_of_isBlank)
  exact ((Thinned.refl _).append (thinned_body template item plurals)).append (.refl _)

def firm (text : Text) : Text :=
  text.filter (!isLoose ·)

-- Clean-up leaves out nothing but punctuation and white space. A field loses at
-- most one mark on each side and one of its value; the closing text is printed in
-- full or not at all; and nothing is printed if there is nothing to close.
theorem firm_render (template : Template) (item : Item) (plurals : Plurals) :
    List.Forall₂ (Option.Rel Slot.LosesMarks) (plainSlots template item plurals)
        (slots template item plurals) ∧
      firm (render template item plurals) =
        firm (template.preliminary.getD [] ++ plainBody template item plurals) ++
          firm (closingText template item plurals) ∧
      (closingText template item plurals = [] ∨
        closingText template item plurals = template.ultimate.getD []) ∧
      (template.preliminary = none ∧ body template item plurals = [] →
        render template item plurals = []) := by
  refine ⟨losesMarks_slots template item plurals, ?_, closingText_eq template item plurals, ?_⟩
  · rw [firm, firm, firm, ← List.filter_append, (thinned_render template item plurals).firm]
  · rintro ⟨hpreliminary, hbody⟩
    simp [render, hpreliminary, hbody]

end Referencing.Template
