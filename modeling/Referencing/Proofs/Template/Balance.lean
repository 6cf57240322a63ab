import Mathlib.Tactic.MkIffOfInductiveProp
import Referencing.Proofs.Markup.Nesting
import Referencing.Proofs.Template.CleanUp
import Referencing.Proofs.Template.PairOrder
import Referencing.Proofs.Template.Texts

namespace Referencing.Template

open Text Markup

-- The markers of a template are complete, and nested around each field, in each
-- pair, in its alternative, and at the two ends.
@[mk_iff]
structure NestsMarkers (template : Template) : Prop where
  marked : template.WellMarkedTexts
  fields : ∀ field ∈ template.fields.entries, ∀ previous next plural,
    Nested (markers (field.2.resolve .pre previous plural ++ field.2.resolve .post next plural))
  pairs : ∀ pair ∈ template.pairs, Nested (markers (pair.opening ++ pair.closing))
  alternatives : ∀ pair ∈ template.pairs, Nested (markers pair.alternative)
  ends : Nested (markers (template.preliminary.getD [] ++ template.ultimate.getD []))

instance (template : Template) : Decidable template.NestsMarkers :=
  decidable_of_iff _ (nestsMarkers_iff template).symm

-- Every printed text has complete markers.
def Marked (printed : Printed) : Prop :=
  ∀ text, some text ∈ printed → WellMarked text

variable {printed : Printed}

theorem marked_cons {slot : Option Text} :
    Marked (slot :: printed) ↔ (∀ text, slot = some text → WellMarked text) ∧ Marked printed := by
  simp only [Marked, List.mem_cons, or_imp, forall_and, eq_comm]

theorem marked_append {left right : Printed} :
    Marked (left ++ right) ↔ Marked left ∧ Marked right := by
  simp only [Marked, List.mem_append, or_imp, forall_and]

theorem alike_marked : Alike (fun text _ => WellMarked text) printed printed ↔ Marked printed := by
  induction printed with
  | nil => simp [Alike, Marked]
  | cons slot rest ih =>
    rw [Alike, List.forall₂_cons, ← Alike, ih, marked_cons]
    cases slot with
    | none => simp
    | some text => simp

theorem compatible_marked : Compatible fun text _ => WellMarked text :=
  ⟨.nil, fun hleft hright => hleft.append hright⟩

theorem Marked.joined (h : Marked printed) : WellMarked (joined printed) :=
  (alike_marked.2 h).joined compatible_marked

-- What a pair needs for its texts to be put around others.
structure Pair.Nests (pair : Pair) : Prop where
  opening : WellMarked pair.opening
  closing : WellMarked pair.closing
  alternative : WellMarked pair.alternative
  nested : Nested (markers (pair.opening ++ pair.closing))
  nestedAlternative : Nested (markers pair.alternative)

theorem NestsMarkers.pair {template : Template} (h : NestsMarkers template) {pair : Pair}
    (hpair : pair ∈ template.pairs) : pair.Nests :=
  have ⟨hopening, hclosing, hfirst, hsecond⟩ := h.marked.pair hpair
  ⟨hopening, hclosing, hfirst.append hsecond, h.pairs pair hpair, h.alternatives pair hpair⟩

theorem Marked.attach {pair : Pair} (h : Marked printed) (hpair : pair.Nests) :
    Marked (pair.attach printed) :=
  alike_marked.1 ((alike_marked.2 h).attach compatible_marked
    ⟨rfl, rfl, hpair.opening, hpair.closing, hpair.alternative⟩)

-- From a place on, whatever has been printed by then has nested markers.
structure NestedFrom (start : Nat) (printed : Printed) : Prop where
  marked : Marked printed
  nested : ∀ length, start ≤ length → Nested (markers (joined (printed.take length)))

theorem take_of_le {front : Printed} (back : Printed) {length : Nat} (h : front.length ≤ length) :
    (front ++ back).take length = front ++ back.take (length - front.length) := by
  rw [List.take_append, List.take_of_length_le h]

variable {start : Nat} {pair : Pair}

-- A pair puts what it encloses between its own markers.
theorem NestedFrom.wrap {before enclosed wrapped after : Printed}
    (h : NestedFrom start (before ++ enclosed ++ after)) (hpair : pair.Nests)
    (hstart : start ≤ before.length) (hlength : wrapped.length = enclosed.length)
    (hjoined : joined wrapped = pair.opening ++ joined enclosed ++ pair.closing) {length : Nat}
    (hstop : before.length + enclosed.length ≤ length) :
    Nested (markers (joined ((before ++ wrapped ++ after).take length))) := by
  obtain ⟨hfront, hafter⟩ := marked_append.1 h.marked
  obtain ⟨hbefore, henclosed⟩ := marked_append.1 hfront
  have hcut : ∀ middle : Printed, middle.length = enclosed.length →
      joined ((before ++ middle ++ after).take length) =
        joined before ++ joined middle ++
          joined (after.take (length - (before.length + enclosed.length))) := by
    intro middle hmiddle
    rw [take_of_le after (by rw [List.length_append]; omega), List.length_append, hmiddle,
      joined_append, joined_append]
  -- The text in front and the text up to the end of the pair are both nested, and
  -- so is what lies between them.
  have hinside : Nested (markers (joined enclosed)) := by
    have hshort := h.nested before.length hstart
    have hlong := h.nested (before ++ enclosed).length (by rw [List.length_append]; omega)
    rw [List.append_assoc, List.take_left] at hshort
    rw [List.take_left, joined_append] at hlong
    simpa using (nested_markers_insert_iff .nil hbefore.joined hshort (joined enclosed)).1 hlong
  have hwrapped : Nested (markers (joined wrapped)) := by
    rw [hjoined, nested_markers_insert_iff hpair.opening henclosed.joined hinside]
    exact hpair.nested
  have hmarked : WellMarked (joined wrapped) := by
    rw [hjoined]
    exact (hpair.opening.append henclosed.joined).append hpair.closing
  have hwhole := h.nested length (by omega)
  rw [hcut enclosed rfl,
    nested_markers_insert_iff hbefore.joined henclosed.joined hinside] at hwhole
  rw [hcut wrapped hlength, nested_markers_insert_iff hbefore.joined hmarked hwrapped]
  exact hwhole

-- An alternative goes to a text before the pair.
theorem NestedFrom.insert_after {before after : Printed} {text : Text}
    (h : NestedFrom start (before ++ some text :: after)) (hpair : pair.Nests) {length : Nat}
    (hstart : start ≤ length) (hstop : before.length < length) :
    Nested (markers (joined
      ((before ++ some (text ++ pair.alternative) :: after).take length))) := by
  obtain ⟨hbefore, hafter⟩ := marked_append.1 h.marked
  have htext := (marked_cons.1 hafter).1 text rfl
  obtain ⟨more, rfl⟩ := Nat.exists_eq_add_of_lt hstop
  have hwhole := h.nested _ hstart
  rw [take_of_le _ (by omega), joined_append] at hwhole ⊢
  simp only [Nat.add_assoc, Nat.add_sub_cancel_left, List.take_succ_cons, joined_cons,
    Option.getD_some, ← List.append_assoc] at hwhole ⊢
  rwa [nested_markers_insert_iff (hbefore.joined.append htext) hpair.alternative
    hpair.nestedAlternative]

-- Or it goes to a text after the pair.
theorem NestedFrom.insert_before {before after : Printed} {text : Text}
    (h : NestedFrom start (before ++ some text :: after)) (hpair : pair.Nests) {length : Nat}
    (hstart : start ≤ length) :
    Nested (markers (joined
      ((before ++ some (pair.alternative ++ text) :: after).take length))) := by
  obtain ⟨hbefore, -⟩ := marked_append.1 h.marked
  have hwhole := h.nested length hstart
  rcases Nat.lt_or_ge before.length length with hlt | hge
  · obtain ⟨more, rfl⟩ := Nat.exists_eq_add_of_lt hlt
    rw [take_of_le _ (by omega), joined_append] at hwhole ⊢
    simp only [Nat.add_assoc, Nat.add_sub_cancel_left, List.take_succ_cons, joined_cons,
      Option.getD_some, ← List.append_assoc] at hwhole ⊢
    rw [List.append_assoc, nested_markers_insert_iff hbefore.joined hpair.alternative
      hpair.nestedAlternative]
    rwa [← List.append_assoc]
  · rw [List.take_append_of_le_length hge] at hwhole ⊢
    exact hwhole

theorem NestedFrom.attach (h : NestedFrom start printed) (hpair : pair.Nests)
    (hstart : start ≤ pair.first) (hstop : pair.first ≤ pair.stop) :
    NestedFrom pair.stop (pair.attach printed) := by
  refine ⟨h.marked.attach hpair, fun length hlength => ?_⟩
  rcases attach_cases pair printed with
    ⟨before, enclosed, wrapped, after, rfl, hattach, hbefore, hend, hsame, hjoined⟩ |
    ⟨before, text, after, rfl, hattach, hbefore⟩ | ⟨before, text, after, rfl, hattach, -⟩ | hattach
  · rw [hattach]
    exact h.wrap hpair (by omega) hsame hjoined (by omega)
  · rw [hattach]
    exact h.insert_after hpair (by omega) (by omega)
  · rw [hattach]
    exact h.insert_before hpair (by omega)
  · rw [hattach]
    exact h.nested length (by omega)

theorem NestedFrom.attachAll (h : NestedFrom start printed) {pairs : List Pair}
    (hpairs : ∀ pair ∈ pairs, pair.Nests) (horder : InOrder start pairs) :
    ∃ stop, NestedFrom stop (attachAll pairs printed) := by
  induction pairs generalizing start printed with
  | nil => exact ⟨start, h⟩
  | cons pair rest ih =>
    obtain ⟨hstart, hstop, hrest⟩ := horder
    rw [List.forall_mem_cons] at hpairs
    exact ih (h.attach hpairs.1 hstart hstop) hpairs.2 hrest

theorem NestedFrom.joined (h : NestedFrom start printed) :
    WellMarked (joined printed) ∧ Nested (markers (joined printed)) := by
  have hwhole := h.nested (max start printed.length) (Nat.le_max_left _ _)
  rw [List.take_of_length_le (Nat.le_max_right _ _)] at hwhole
  exact ⟨h.marked.joined, hwhole⟩

theorem nested_joined (h : ∀ text, some text ∈ printed → WellMarked text ∧ Nested (markers text)) :
    Nested (markers (joined printed)) := by
  induction printed with
  | nil => exact markers_nil ▸ .nil
  | cons slot rest ih =>
    have hrest := ih fun text htext => h text (List.mem_cons_of_mem _ htext)
    cases slot with
    | none => exact hrest
    | some text =>
      obtain ⟨hmarked, hnested⟩ := h text List.mem_cons_self
      rw [joined_cons, Option.getD_some, hmarked.markers_append]
      exact hnested.append hrest

section

variable {template : Template} {item : Item} (h : NestsMarkers template) (hitem : item.NoBrackets)

include h hitem

-- Before any pair is attached the text of each field is nested.
theorem NestsMarkers.plain (plurals : Plurals) {text : Text}
    (htext : some text ∈ (plainSlots template item plurals).map (·.map Slot.text)) :
    WellMarked text ∧ Nested (markers text) := by
  obtain ⟨slot, hslot, hprinted⟩ := List.mem_map.1 htext
  obtain ⟨slot, rfl, rfl⟩ := Option.map_eq_some_iff.1 hprinted
  obtain ⟨field, hfield, previous, next, plural, value, hvalue, rfl⟩ := mem_plainSlotsFrom hslot
  have hbrackets := hitem field.1 value hvalue
  have hmarked := WellMarked.of_not_isBracket hbrackets
  have hpre := h.marked.resolve hfield .pre previous plural
  have hpost := h.marked.resolve hfield .post next plural
  refine ⟨(hpre.append hmarked).append hpost, ?_⟩
  have hnested : Nested (markers value) := markers_of_not_isBracket hbrackets ▸ .nil
  exact (nested_markers_insert_iff hpre hmarked hnested _).2
    (h.fields field hfield previous next plural)

theorem NestsMarkers.plainBody (horder : InOrder 0 template.pairs) (plurals : Plurals) :
    WellMarked (plainBody template item plurals) ∧
      Nested (markers (Template.plainBody template item plurals)) := by
  have hplain : NestedFrom 0 ((plainSlots template item plurals).map (·.map Slot.text)) := by
    refine ⟨fun text htext => (h.plain hitem plurals htext).1, fun length _ => ?_⟩
    exact nested_joined fun text htext => h.plain hitem plurals (List.mem_of_mem_take htext)
  obtain ⟨stop, hall⟩ := hplain.attachAll (fun pair hpair => h.pair hpair) horder
  exact hall.joined

theorem NestsMarkers.markers_render (horder : InOrder 0 template.pairs) (plurals : Plurals) :
    Nested (markers (render template item plurals)) ↔
      Nested (markers (template.preliminary.getD [] ++ closingText template item plurals)) := by
  obtain ⟨hmarked, hnested⟩ := h.plainBody hitem horder plurals
  have hpreliminary := h.marked.preliminary
  have hclosing : WellMarked (closingText template item plurals) := by
    rcases closingText_eq template item plurals with hnone | hall
    · exact hnone ▸ .nil
    · exact hall ▸ h.marked.ultimate
  have hwhole := (hpreliminary.append hmarked).append hclosing
  rw [((thinned_render template item plurals).wellMarked (fun _ => id) hwhole).2.1,
    nested_markers_insert_iff hpreliminary hmarked hnested]

end

-- The closing text is left out as a whole, and with it the markers that it
-- closes. All else keeps the markers nested, and so do the exports.
theorem nested_render_iff (source : Text) (names : FieldSet)
    (h : NestsMarkers (compile source names)) {item : Item} (hitem : item.NoBrackets)
    (plurals : Plurals) :
    let template := compile source names
    let text := render template item plurals
    (Nested (markers text) ↔ Nested (markers (template.preliminary.getD [])) ∨
        ∀ ultimate ∈ template.ultimate,
          isIdleAfter (beforeUltimate template item plurals) ultimate = false) ∧
      (Nested (markers text) → ∀ format : Format, format ≠ .raw →
        Enclosed format.medium (format.export text)) := by
  intro template text
  refine ⟨?_, fun hnested format hformat => ?_⟩
  · rw [h.markers_render hitem (inOrder_compile source names) plurals, closingText]
    have hends := h.ends
    by_cases hempty : template.preliminary.isNone && (body template item plurals).isEmpty
    · have hnone := hempty
      rw [Bool.and_eq_true, Option.isNone_iff_eq_none] at hnone
      rw [if_pos hempty, hnone.1]
      exact ⟨.inl, fun _ => by simpa using Nested.nil⟩
    · rw [if_neg hempty]
      cases hultimate : template.ultimate with
      | none =>
        rw [hultimate] at hends
        exact ⟨fun _ => .inr (by simp), fun _ => hends⟩
      | some ultimate =>
        rw [hultimate] at hends
        rw [Option.elim_some]
        cases hidle : isIdleAfter (beforeUltimate template item plurals) ultimate with
        | false => exact ⟨fun _ => .inr (by simpa using hidle), fun _ => hends⟩
        | true =>
          rw [if_pos rfl, List.append_nil]
          refine ⟨.inl, fun hor => hor.resolve_right fun hall => ?_⟩
          exact absurd (hall ultimate rfl) (by simp [hidle])
  · cases format with
    | raw => exact absurd rfl hformat
    | plain => exact enclosed_convert _ hnested
    | html => exact enclosed_convert _ hnested
    | rtf => exact enclosed_convert _ hnested

theorem nested_render_of_essays :
    let template := compile "[i]See |title|([b]|year1|[/b])|.[/i]".toList .bibliography
    let item := Item.ofList [("title".toList, "Essays".toList), ("year1".toList, "2004".toList)]
    NestsMarkers template ∧ item.NoBrackets ∧
      render template item .empty = "[i]See Essays([b]2004[/b]).[/i]".toList ∧
      Nested (markers (render template item .empty)) := by
  have hmarkers : NestsMarkers
      (compile "[i]See |title|([b]|year1|[/b])|.[/i]".toList .bibliography) := by
    decide +kernel
  have hitem : Item.NoBrackets
      (.ofList [("title".toList, "Essays".toList), ("year1".toList, "2004".toList)]) := by
    decide +kernel
  exact ⟨hmarkers, hitem, by decide +kernel,
    (nested_render_iff _ _ hmarkers hitem .empty).1.2 (.inr (by decide +kernel))⟩

-- A title that ends a sentence takes the closing text away.
theorem not_nested_render_of_question :
    let template := compile "[i]See |title|.[/i]".toList .bibliography
    let item := Item.ofList [("title".toList, "Why.".toList)]
    NestsMarkers template ∧ item.NoBrackets ∧
      render template item .empty = "[i]See Why.".toList ∧
      ¬Nested (markers (render template item .empty)) := by
  decide +kernel

end Referencing.Template
