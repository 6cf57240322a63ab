import Referencing.Proofs.Markup.LookAround
import Referencing.Proofs.Template.CleanUp

namespace Referencing.Markup

open Text

theorem dropTrailing_isPrefix (text : Text) : dropTrailing text <+: text := by
  fun_induction dropTrailing text with
  | case1 => exact List.prefix_refl _
  | case2 text marker h ih => exact ih.trans (List.take_prefix _ _)

theorem mem_of_lastVisible {text : Text} {c : Char} (h : lastVisible text = some c) : c ∈ text :=
  (dropTrailing_isPrefix text).subset (List.mem_of_getLast? h)

-- What stands in front of a text does not change what is seen last in it.
theorem lastVisible_append {text : Text} {c : Char} (before : Text) (hc : c ≠ ']')
    (h : lastVisible text = some c) : lastVisible (before ++ text) = some c := by
  rw [lastVisible] at h ⊢
  fun_induction dropTrailing text with
  | case1 text =>
    obtain ⟨init, rfl⟩ := List.getLast?_eq_some_iff.1 h
    rw [← List.append_assoc, dropTrailing_concat _ hc, List.getLast?_concat]
  | case2 text marker hmarker ih =>
    have hsuffix := List.isSuffixOf_iff_suffix.1 (Marker.parseEnd?_isSuffix hmarker)
    have htext := List.suffix_iff_eq_append.1 hsuffix
    rw [← htext, ← List.append_assoc, dropTrailing_append_spelling]
    exact ih h

end Referencing.Markup

namespace Referencing.Template

open Text Markup

-- A text stands in one piece within what is printed for one field.
def Covered (text : Text) (printed : Printed) : Prop :=
  ∃ whole, some whole ∈ printed ∧ text <:+: whole

namespace Covered

variable {text : Text} {printed : Printed}

theorem of_mem (h : some text ∈ printed) : Covered text printed :=
  ⟨text, h, List.infix_refl text⟩

theorem changeAt (h : Covered text printed) (index : Nat) {change : Text → Text}
    (hchange : ∀ whole, whole <:+: change whole) : Covered text (changeAt index change printed) := by
  obtain ⟨whole, hmem, hinfix⟩ := h
  induction printed generalizing index with
  | nil => simp at hmem
  | cons slot rest ih =>
    cases index with
    | zero =>
      rcases List.mem_cons.1 hmem with rfl | hmem
      · exact ⟨change whole, List.mem_cons_self, hinfix.trans (hchange whole)⟩
      · exact ⟨whole, List.mem_cons_of_mem _ hmem, hinfix⟩
    | succ index =>
      rcases List.mem_cons.1 hmem with rfl | hmem
      · exact ⟨whole, List.mem_cons_self, hinfix⟩
      · obtain ⟨other, hother, htext⟩ := ih index hmem
        exact ⟨other, List.mem_cons_of_mem _ hother, htext⟩

-- A pair is put around texts or beside them, never into one.
theorem attach (h : Covered text printed) (pair : Pair) : Covered text (pair.attach printed) := by
  have hbehind : ∀ added whole : Text, whole <:+: whole ++ added := fun added whole =>
    (List.prefix_append whole added).isInfix
  have hinFront : ∀ added whole : Text, whole <:+: added ++ whole := fun added whole =>
    (List.suffix_append added whole).isInfix
  unfold Pair.attach
  simp only []
  split
  · exact (h.changeAt _ (hinFront _)).changeAt _ (hbehind _)
  · split
    · exact h.changeAt _ (hbehind _)
    · split
      · exact h.changeAt _ (hinFront _)
      · exact h

theorem attachAll (h : Covered text printed) (pairs : List Pair) :
    Covered text (attachAll pairs printed) := by
  induction pairs generalizing printed with
  | nil => exact h
  | cons pair rest ih => exact ih (h.attach pair)

theorem joined (h : Covered text printed) : text <:+: joined printed := by
  obtain ⟨whole, hmem, hinfix⟩ := h
  refine hinfix.trans ?_
  obtain ⟨before, after, rfl⟩ := List.append_of_mem hmem
  exact ⟨Template.joined before, Template.joined after, by simp⟩

end Covered

theorem text_infix_body {template : Template} {item : Item} {plurals : Plurals} {slot : Slot}
    (h : some slot ∈ slots template item plurals) :
    slot.text <:+: body template item plurals := by
  have hprinted : some slot.text ∈ (slots template item plurals).map (·.map Slot.text) :=
    List.mem_map_of_mem h
  exact ((Covered.of_mem hprinted).attachAll template.pairs).joined

-- What the template prints is some text around the slot, cleaned up.
theorem exists_render_eq {template : Template} {item : Item} {plurals : Plurals} {slot : Slot}
    (h : some slot ∈ slots template item plurals) :
    ∃ before after, render template item plurals =
      trim (collapseSpaces (before ++ slot.text ++ after)) := by
  obtain ⟨before, after, hbody⟩ := text_infix_body h
  refine ⟨template.preliminary.getD [] ++ before, after ++ closingText template item plurals, ?_⟩
  rw [render_eq, beforeUltimate, ← hbody]
  simp only [List.append_assoc]

-- A value is printed in one piece, cleaned up with what stands around it. A
-- punctuation mark at its start may be the one seen last before it.
def Keeps (value text : Text) : Prop :=
  ∃ before kept after, text = trim (collapseSpaces (before ++ kept ++ after)) ∧
    (kept = value ∨
      ∃ mark, isPunctuation mark ∧ lastVisible before = some mark ∧ value = mark :: kept)

theorem keeps_of_tidy {template : Template} {item : Item} {plurals : Plurals} {slot : Slot}
    (h : some (slot.tidy none) ∈ slots template item plurals) :
    Keeps slot.value (render template item plurals) := by
  obtain ⟨before, after, hrender⟩ := exists_render_eq h
  let pre := dropIdle none slot.pre
  let last := if pre = [] then none else lastVisible pre
  refine ⟨before ++ pre, dropRepeated last slot.value, (slot.tidy none).post ++ after, ?_, ?_⟩
  · rw [hrender]
    simp only [Slot.text, Slot.tidy, Option.bind_none, List.append_assoc, pre, last]
  · rcases dropRepeated_cases last slot.value with hsame | ⟨mark, hmark, hlast, hvalue⟩
    · exact .inl hsame
    · have hpre : lastVisible pre = some mark := by
        by_cases hempty : pre = []
        · simp [last, hempty] at hlast
        · rwa [show last = lastVisible pre from if_neg hempty] at hlast
      have hbracket : mark ≠ ']' := by rintro rfl; exact absurd hmark (by decide)
      exact .inr ⟨mark, hmark, lastVisible_append before hbracket hpre, hvalue⟩

theorem exists_tidy_mem_slotsFrom {item : Item} (plurals : Plurals) (adjacent : Bool)
    {skipped : List (Text × FieldSpec)} (rest : List (Text × FieldSpec)) {name value : Text}
    (spec : FieldSpec) (hskipped : ∀ field ∈ skipped, item.get? field.1 = none)
    (hvalue : item.get? name = some value) :
    ∃ slot : Slot, slot.value = value ∧
      some (slot.tidy none) ∈
        slotsFrom item plurals none adjacent (skipped ++ (name, spec) :: rest) := by
  induction skipped generalizing adjacent with
  | nil =>
    simp only [List.nil_append, slotsFrom, hvalue]
    exact ⟨_, rfl, List.mem_cons_self⟩
  | cons field skipped ih =>
    obtain ⟨other, otherSpec⟩ := field
    rw [List.forall_mem_cons] at hskipped
    obtain ⟨slot, hslot, hmem⟩ := ih false hskipped.2
    refine ⟨slot, hslot, ?_⟩
    simp only [List.cons_append, slotsFrom, hskipped.1]
    exact List.mem_cons_of_mem _ hmem

-- Only what is printed before a field can shorten its value, and before the first
-- one that is there that is its own affix.
theorem keeps_render {template : Template} {item : Item} (plurals : Plurals)
    {skipped rest : List (Text × FieldSpec)} {name value : Text} {spec : FieldSpec}
    (hfields : template.fields.entries = skipped ++ (name, spec) :: rest)
    (hskipped : ∀ field ∈ skipped, item.get? field.1 = none)
    (hvalue : item.get? name = some value) : Keeps value (render template item plurals) := by
  obtain ⟨slot, rfl, hslot⟩ := exists_tidy_mem_slotsFrom plurals false rest spec hskipped hvalue
  rw [← hfields] at hslot
  exact keeps_of_tidy hslot

-- A template without a field prints its leading text and nothing else.
theorem render_of_no_field {template : Template} (hfields : template.fields.entries = [])
    (hultimate : template.ultimate = none) (item : Item) (plurals : Plurals) :
    render template item plurals = trim (collapseSpaces (template.preliminary.getD [])) := by
  have hbody : body template item plurals = [] :=
    (body_eq_nil_iff plurals).2 (by simp [hfields])
  have hclosing : closingText template item plurals = [] := by
    simpa [hultimate] using closingText_eq template item plurals
  rw [render_eq, beforeUltimate, hbody, hclosing, List.append_nil, List.append_nil]

theorem isBlank_of_isPunctuation {c : Char} (h : isPunctuation c) : isBlank c = false := by
  simp only [isPunctuation, List.mem_cons, List.not_mem_nil, or_false, decide_eq_true_eq] at h
  rcases h with rfl | rfl | rfl | rfl | rfl | rfl <;> rfl

namespace Keeps

variable {value text : Text}

theorem firm_isInfix (h : Keeps value text) : firm value <:+: firm text := by
  obtain ⟨before, kept, after, rfl, hvalue⟩ := h
  have hkept : firm value = firm kept := by
    rcases hvalue with rfl | ⟨mark, hmark, -, rfl⟩
    · rfl
    · simp [firm, isLoose_of_isPunctuation mark hmark]
  have hcleaned := ((thinned_collapseSpaces (before ++ kept ++ after)).trans (thinned_trim _)).mono
    isLoose_of_isBlank
  refine ⟨firm before, firm after, ?_⟩
  rw [hkept, firm, firm, firm, firm, hcleaned.firm, List.filter_append, List.filter_append]

-- A character that is not blank is left after clean-up: one of the value, or the
-- mark before it.
theorem ne_nil (h : Keeps value text) (hvalue : isBlankText value = false) : text ≠ [] := by
  obtain ⟨before, kept, after, rfl, hkept⟩ := h
  have hfound : ∃ c ∈ before ++ kept ++ after, isBlank c = false := by
    rcases hkept with rfl | ⟨mark, hmark, hbefore, rfl⟩
    · obtain ⟨c, hc, hblank⟩ := List.all_eq_false.1 hvalue
      exact ⟨c, by simp [hc], by simpa using hblank⟩
    · exact ⟨mark, by simp [mem_of_lastVisible hbefore], isBlank_of_isPunctuation hmark⟩
  obtain ⟨c, hc, hblank⟩ := hfound
  intro hnil
  have hfirm := ((thinned_collapseSpaces (before ++ kept ++ after)).trans (thinned_trim _)).firm
  rw [hnil, List.filter_nil, eq_comm, List.filter_eq_nil_iff] at hfirm
  exact hfirm c hc (by simp [hblank])

end Keeps

end Referencing.Template
