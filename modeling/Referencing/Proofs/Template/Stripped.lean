import Mathlib.Tactic.MkIffOfInductiveProp
import Referencing.Proofs.Markup.LookAround
import Referencing.Proofs.Template.CleanUp
import Referencing.Proofs.Template.Texts
import Referencing.Template.Compile

namespace Referencing.Template

open Text Markup

-- What is left of the parts of a template without the markers in their texts.
def Part.stripped : Part → Part
  | .text run => .text (unmarked run)
  | .dependent => .dependent
  | .plural => .plural

def FieldSpec.stripped (spec : FieldSpec) : FieldSpec where
  pre := spec.pre.map Part.stripped
  post := spec.post.map Part.stripped
  dependentPre := spec.dependentPre.map unmarked
  dependentPreAlternative := spec.dependentPreAlternative.map unmarked
  dependentPost := spec.dependentPost.map unmarked
  dependentPostAlternative := spec.dependentPostAlternative.map unmarked
  singular := spec.singular.map unmarked
  plural := spec.plural.map unmarked

def Pair.stripped (pair : Pair) : Pair :=
  { pair with
    opening := unmarked pair.opening
    openingAlternative := pair.openingAlternative.map unmarked
    closing := unmarked pair.closing
    closingAlternative := pair.closingAlternative.map unmarked }

def stripped (template : Template) : Template :=
  { template with
    fields := template.fields.mapValues fun _ spec => spec.stripped
    preliminary := template.preliminary.map unmarked
    ultimate := template.ultimate.map unmarked
    pairs := template.pairs.map Pair.stripped }

theorem stripped_entries (template : Template) :
    template.stripped.fields.entries =
      template.fields.entries.map fun field => (field.1, field.2.stripped) := rfl

-- The brackets of a text belong to markers, and without these it is the other.
structure Strips (text plain : Text) : Prop where
  marked : WellMarked text
  unmarked_eq : unmarked text = plain

namespace Strips

variable {text plain : Text}

theorem append {other bare : Text} (h : Strips text plain) (h' : Strips other bare) :
    Strips (text ++ other) (plain ++ bare) :=
  ⟨h.marked.append h'.marked, by rw [h.marked.unmarked_append, h.unmarked_eq, h'.unmarked_eq]⟩

theorem compatible : Compatible Strips :=
  ⟨⟨.nil, unmarked_nil⟩, .append⟩

theorem of_not_isBracket (h : ∀ c ∈ text, isBracket c = false) : Strips text text :=
  ⟨.of_not_isBracket h, unmarked_of_not_isBracket h⟩

theorem self (h : Strips text plain) : Strips plain plain :=
  of_not_isBracket fun _ hc => h.marked.not_isBracket_of_mem_unmarked (h.unmarked_eq ▸ hc)

theorem lastVisible_eq (h : Strips text plain) : lastVisible text = lastVisible plain := by
  rw [lastVisible_eq_getLast?, lastVisible_eq_getLast?, h.unmarked_eq, h.self.unmarked_eq]

theorem cutLeading_plain (h : Strips text plain) : cutLeading plain = ([], plain) := by
  have hmarked := h.self.marked
  have hbrackets : ∀ c ∈ plain, isBracket c = false := fun _ hc =>
    h.marked.not_isBracket_of_mem_unmarked (h.unmarked_eq ▸ hc)
  cases plain with
  | nil => exact cutLeading_nil
  | cons c rest => exact cutLeading_cons rest (ne_bracket (hbrackets c List.mem_cons_self)).1

-- Idle punctuation is found behind markers.
theorem dropIdle (h : Strips text plain) (last : Option Char) :
    Strips (dropIdle last text) (dropIdle last plain) := by
  obtain ⟨hmarkers, hempty, hrest, hlead⟩ := h.marked.cutLeading
  rw [h.unmarked_eq] at hrest
  cases last with
  | none => exact h
  | some last =>
    unfold Template.dropIdle
    rw [h.cutLeading_plain]
    rcases hcut : cutLeading text with ⟨markers, rest⟩
    rw [hcut] at hmarkers hempty hrest hlead
    cases rest with
    | nil =>
      rw [unmarked_nil] at hrest
      subst hrest
      exact h
    | cons c rest =>
      obtain ⟨hc, hmarked⟩ := hlead c rest rfl
      rw [unmarked_cons rest hc] at hrest
      subst hrest
      by_cases hidle : isIdle last c
      · simp only [hidle, if_true, List.nil_append]
        exact ⟨hmarkers.append hmarked, by rw [hmarkers.unmarked_append, hempty, List.nil_append]⟩
      · simp only [hidle]
        exact h

end Strips

theorem strips_getD {text : Option Text} (h : WellMarked (text.getD [])) :
    Strips (text.getD []) ((text.map unmarked).getD []) := by
  cases text with
  | none => exact Strips.compatible.nil
  | some text => exact ⟨h, rfl⟩

theorem strips_resolve_affix {affix : Affix} {dependent plural bare bare' : Text}
    (h : ∀ text ∈ affix.runs, WellMarked text) (hdependent : Strips dependent bare)
    (hplural : Strips plural bare') :
    Strips (affix.resolve dependent plural)
      (Affix.resolve bare bare' (affix.map Part.stripped)) := by
  induction affix with
  | nil => exact Strips.compatible.nil
  | cons part rest ih =>
    rw [Affix.runs, List.flatMap_cons, List.forall_mem_append] at h
    rw [List.map_cons, Affix.resolve, List.flatMap_cons, Affix.resolve, List.flatMap_cons]
    refine Strips.append ?_ (ih h.2)
    cases part with
    | text run => exact ⟨h.1 run (List.mem_singleton_self run), rfl⟩
    | dependent => exact hdependent
    | plural => exact hplural

-- The texts of the markers are stripped with the others.
theorem strips_resolve {spec : FieldSpec} (h : ∀ text ∈ spec.texts, WellMarked text)
    (side : Side) (neighbour isPlural : Bool) :
    Strips (spec.resolve side neighbour isPlural)
      (spec.stripped.resolve side neighbour isPlural) := by
  rw [FieldSpec.texts, List.forall_mem_append, List.forall_mem_append] at h
  obtain ⟨⟨hpre, hpost⟩, hchoices⟩ := h
  obtain ⟨hdependent, hplural⟩ := wellMarked_choices hchoices
  have hstrips : Strips (spec.dependentText side neighbour)
      (spec.stripped.dependentText side neighbour) := by
    cases side <;> cases neighbour <;> exact strips_getD (hdependent _ _)
  have hstrips' : Strips (spec.pluralText isPlural) (spec.stripped.pluralText isPlural) := by
    cases isPlural <;> exact strips_getD (hplural _)
  cases side with
  | pre => exact strips_resolve_affix hpre hstrips hstrips'
  | post => exact strips_resolve_affix hpost hstrips hstrips'

theorem WellMarkedTexts.strips_pairs {template : Template} (h : template.WellMarkedTexts) :
    List.Forall₂ (Pair.Alike Strips) template.pairs template.stripped.pairs := by
  refine List.forall₂_map_right_iff.2 (List.forall₂_same.2 fun pair hpair => ?_)
  obtain ⟨hopening, hclosing, hfirst, hsecond⟩ := h.pair hpair
  have halternative := (strips_getD hfirst).append (strips_getD hsecond)
  exact ⟨rfl, rfl, ⟨hopening, rfl⟩, ⟨hclosing, rfl⟩, halternative⟩

-- Whether an affix is made of markers alone when it has lost the mark that the
-- value begins with. The value then does not see what stands before the affix.
def hidesLead (pre value : Text) : Bool :=
  value.head?.any fun c =>
    isPunctuation c && unmarked (dropIdle (some c) pre) = [] && dropIdle (some c) pre ≠ []

-- Whether a closing text begins with a mark behind a marker, or with one that comes
-- to stand behind a blank and a marker.
def hidesMark (text ultimate : Text) : Bool :=
  (trimStart (unmarked ultimate)).head?.any fun c =>
    isPunctuation c &&
      ((trimStart ultimate).head? ≠ some c || (lastVisible (trimEnd text)).any isBlank)

theorem eq_nil_of_not_hidesLead {pre value : Text} (h : hidesLead pre value = false) {c : Char}
    (hc : value.head? = some c) (hpunctuation : isPunctuation c)
    (hempty : unmarked (dropIdle (some c) pre) = []) : dropIdle (some c) pre = [] := by
  simpa [hidesLead, hc, hpunctuation, hempty] using h

-- A value does not see the markers of its affix, unless there is nothing else that
-- would come between it and the same mark.
theorem Strips.dropRepeated_eq {pre bare : Text} (h : Strips pre bare) {last : Option Char}
    {value : Text}
    (hlead : ∀ c ∈ value.head?, last = some c → isPunctuation c → bare = [] → pre = []) :
    dropRepeated (if pre = [] then last else lastVisible pre) value =
      dropRepeated (if bare = [] then last else lastVisible bare) value := by
  by_cases hpre : pre = []
  · have hbare : bare = [] := by rw [← h.unmarked_eq, hpre, unmarked_nil]
    rw [if_pos hpre, if_pos hbare]
  · rw [if_neg hpre, h.lastVisible_eq]
    by_cases hbare : bare = []
    · have hnone : lastVisible bare = none := by
        rw [hbare, lastVisible_eq_getLast?, unmarked_nil, List.getLast?_nil]
      rw [if_pos hbare, hnone]
      rw [dropRepeated_eq_self (by simp), dropRepeated_eq_self]
      exact fun c hc hlast hpunctuation => hpre (hlead c hc hlast hpunctuation hbare)
    · rw [if_neg hbare]

theorem Strips.tidy {pre bare value post bare' : Text} {previous previous' : Option Text}
    (hprevious : Option.Rel Strips previous previous') (hpre : Strips pre bare)
    (hvalue : ∀ c ∈ value, isBracket c = false) (hpost : Strips post bare')
    (hlead : hidesLead pre value = false) :
    Strips ((⟨pre, value, post⟩ : Slot).tidy previous).text
      ((⟨bare, value, bare'⟩ : Slot).tidy previous').text := by
  have hlast : previous.bind lastVisible = previous'.bind lastVisible := by
    cases hprevious with
    | none => rfl
    | some hprevious => exact hprevious.lastVisible_eq
  have hkept := hpre.dropIdle (previous'.bind lastVisible)
  have hbare : ∀ c ∈ value.head?, previous'.bind lastVisible = some c → isPunctuation c →
      Template.dropIdle (previous'.bind lastVisible) bare = [] →
        Template.dropIdle (previous'.bind lastVisible) pre = [] := by
    intro c hc hlastc hpunctuation hempty
    rw [← hkept.unmarked_eq, hlastc] at hempty
    rw [hlastc]
    exact eq_nil_of_not_hidesLead hlead hc hpunctuation hempty
  have hsame := hkept.dropRepeated_eq hbare
  simp only [Slot.text, Slot.tidy, hlast, hsame]
  refine (hkept.append (.of_not_isBracket fun c hc => hvalue c ?_)).append (hpost.dropIdle _)
  exact (losesMark_dropRepeated _ _).thinned.sublist.subset hc

-- The last character that is seen is the same without markers, if it is not a
-- blank that only a marker keeps from being trimmed.
theorem Strips.lastVisible_trimEnd {text bare : Text} (h : Strips text bare)
    (hlast : (lastVisible (trimEnd text)).any isBlank = false) :
    lastVisible (trimEnd text) = lastVisible (trimEnd bare) := by
  obtain ⟨blanks, hblanks, htext⟩ := trimEnd_append_blank text
  obtain ⟨hmarked, -, -⟩ := (thinned_trimEnd text).wellMarked isLoose_of_isBlank h.marked
  have hsame : unmarked blanks = blanks :=
    unmarked_of_not_isBracket fun c hc => isBracket_of_isLoose (isLoose_of_isBlank c (hblanks c hc))
  have hbare : bare = unmarked (trimEnd text) ++ blanks :=
    calc
      bare = unmarked (trimEnd text ++ blanks) := by rw [← htext, h.unmarked_eq]
      _ = unmarked (trimEnd text) ++ blanks := by rw [hmarked.unmarked_append, hsame]
  rw [lastVisible_eq_getLast?] at hlast
  have htrim : Strips (trimEnd text) (trimEnd bare) := by
    rw [hbare, trimEnd_append _ hblanks, trimEnd_eq_self hlast]
    exact ⟨hmarked, rfl⟩
  exact htrim.lastVisible_eq

-- Whether the closing text is idle does not depend on markers, if none hides the
-- mark that it begins with.
theorem Strips.isIdleAfter_eq {text bare ultimate : Text} (h : Strips text bare)
    (hultimate : WellMarked ultimate) (hmark : hidesMark text ultimate = false) :
    isIdleAfter text ultimate = isIdleAfter bare (unmarked ultimate) := by
  by_cases hlead : ∃ c ∈ (trimStart (unmarked ultimate)).head?, isPunctuation c
  · obtain ⟨c, hc, hpunctuation⟩ := hlead
    rw [Option.mem_def] at hc
    simp only [hidesMark, hc, hpunctuation, Option.any_some, Bool.true_and, Bool.or_eq_false_iff,
      decide_eq_false_iff_not, not_not] at hmark
    obtain ⟨hsame, hlast⟩ := hmark
    rw [isIdleAfter, isIdleAfter, h.lastVisible_trimEnd hlast, hsame, hc]
  · rw [isIdleAfter_of_lead bare fun c hc hpunctuation => hlead ⟨c, hc, hpunctuation⟩]
    refine isIdleAfter_of_lead text fun c hc hpunctuation => hlead ⟨c, ?_, hpunctuation⟩
    have hc' := isBracket_of_isLoose (isLoose_of_isPunctuation c hpunctuation)
    exact hultimate.head?_trimStart hc' hc

-- No marker hides punctuation from clean-up.
@[mk_iff]
structure Unhidden (template : Template) (item : Item) (plurals : Plurals) : Prop where
  leads : ∀ field ∈ template.fields.entries, ∀ value ∈ item.get? field.1, ∀ previous plural,
    hidesLead (field.2.resolve .pre previous plural) value = false
  closing : ∀ ultimate ∈ template.ultimate,
    hidesMark (beforeUltimate template item plurals) ultimate = false

instance (template : Template) (item : Item) (plurals : Plurals) :
    Decidable (template.Unhidden item plurals) :=
  decidable_of_iff _ (unhidden_iff template item plurals).symm

section

variable {template : Template} {item : Item} {plurals : Plurals}

theorem strips_slotsFrom (h : template.WellMarkedTexts) (hitem : item.NoBrackets)
    (hseams : template.Unhidden item plurals) {previous previous' : Option Text}
    (hprevious : Option.Rel Strips previous previous') (adjacent : Bool)
    {fields : List (Text × FieldSpec)}
    (hfields : ∀ field ∈ fields, field ∈ template.fields.entries) :
    List.Forall₂ (Option.Rel fun slot bare => Strips slot.text bare.text)
      (slotsFrom item plurals previous adjacent fields)
      (slotsFrom item plurals previous' adjacent
        (fields.map fun field => (field.1, field.2.stripped))) := by
  induction fields generalizing previous previous' adjacent with
  | nil => exact .nil
  | cons field rest ih =>
    obtain ⟨name, spec⟩ := field
    rw [List.forall_mem_cons] at hfields
    obtain ⟨hfield, hrest⟩ := hfields
    have hnext : (rest.map fun field => (field.1, field.2.stripped)).head?.any (item.has ·.1) =
        rest.head?.any (item.has ·.1) := by
      cases rest <;> rfl
    simp only [List.map_cons, slotsFrom, hnext]
    cases hvalue : item.get? name with
    | none => exact .cons .none (ih hprevious false hrest)
    | some value =>
      have hresolve := strips_resolve (h.field hfield)
      have hslot := Strips.tidy hprevious (hresolve .pre adjacent (plurals.isPlural name))
        (hitem name value hvalue)
        (hresolve .post (rest.head?.any (item.has ·.1)) (plurals.isPlural name))
        (hseams.leads _ hfield value hvalue _ _)
      exact .cons (.some hslot) (ih (.some hslot) true hrest)

theorem strips_body (h : template.WellMarkedTexts) (hitem : item.NoBrackets)
    (hseams : template.Unhidden item plurals) :
    Strips (body template item plurals) (body template.stripped item plurals) := by
  refine Alike.joined Strips.compatible (Alike.attachAll Strips.compatible h.strips_pairs ?_)
  rw [Alike, List.forall₂_map_left_iff, List.forall₂_map_right_iff]
  refine (strips_slotsFrom h hitem hseams .none false fun _ => id).imp ?_
  intro slot bare hslot
  cases hslot with
  | none => exact .none
  | some hslot => exact .some hslot

theorem body_stripped_isEmpty :
    (body template.stripped item plurals).isEmpty = (body template item plurals).isEmpty := by
  rw [Bool.eq_iff_iff, List.isEmpty_iff, List.isEmpty_iff, body_eq_nil_iff, body_eq_nil_iff,
    stripped_entries, List.forall_mem_map]

theorem strips_beforeUltimate (h : template.WellMarkedTexts) (hitem : item.NoBrackets)
    (hseams : template.Unhidden item plurals) :
    Strips (beforeUltimate template item plurals) (beforeUltimate template.stripped item plurals) :=
  (strips_getD h.preliminary).append (strips_body h hitem hseams)

theorem strips_closingText (h : template.WellMarkedTexts) (hitem : item.NoBrackets)
    (hseams : template.Unhidden item plurals) :
    Strips (closingText template item plurals) (closingText template.stripped item plurals) := by
  have hbefore := strips_beforeUltimate h hitem hseams
  have hultimate := h.ultimate
  have hpreliminary : template.stripped.preliminary.isNone = template.preliminary.isNone :=
    Option.isNone_map
  rw [closingText, closingText, hpreliminary, body_stripped_isEmpty]
  split
  · exact Strips.compatible.nil
  · cases hsome : template.ultimate with
    | none => simpa [stripped, hsome] using Strips.compatible.nil
    | some ultimate =>
      have hstripped : template.stripped.ultimate = some (unmarked ultimate) := by
        simp [stripped, hsome]
      rw [hsome, Option.getD_some] at hultimate
      rw [hstripped, Option.elim_some, Option.elim_some,
        hbefore.isIdleAfter_eq hultimate (hseams.closing ultimate hsome)]
      split
      · exact Strips.compatible.nil
      · exact ⟨hultimate, rfl⟩

def unspaced (text : Text) : Text :=
  text.filter (!isBlank ·)

-- A text loses nothing but blanks when it is put together.
theorem unspaced_render (hwhole : WellMarked
      (beforeUltimate template item plurals ++ closingText template item plurals)) :
    unspaced (Format.plain.export (render template item plurals)) =
      unspaced (unmarked
        (beforeUltimate template item plurals ++ closingText template item plurals)) := by
  have hthinned := (thinned_collapseSpaces
    (beforeUltimate template item plurals ++ closingText template item plurals)).trans
      (thinned_trim _)
  rw [← render_eq] at hthinned
  obtain ⟨hmarked, -, hunmarked⟩ := hthinned.wellMarked isLoose_of_isBlank hwhole
  rw [hmarked.export_plain]
  exact hunmarked.firm

end

-- Markers do not change what is printed, if none of them hides punctuation.
theorem unspaced_render_stripped {template : Template} {item : Item} {plurals : Plurals}
    (h : template.WellMarkedTexts) (hitem : item.NoBrackets)
    (hseams : template.Unhidden item plurals) :
    unspaced (Format.plain.export (render template item plurals)) =
      unspaced (Format.plain.export (render template.stripped item plurals)) := by
  have hwhole := (strips_beforeUltimate h hitem hseams).append (strips_closingText h hitem hseams)
  rw [unspaced_render hwhole.marked, unspaced_render hwhole.self.marked, hwhole.unmarked_eq,
    hwhole.self.unmarked_eq]

theorem unspaced_render_of_bold_creator :
    let template := compile "[b]creator1[/b]. |[i]title[/i]|.".toList .bibliography
    let item := Item.ofList
      [("creator1".toList, "Smith, J.".toList), ("title".toList, "Why?".toList)]
    template.WellMarkedTexts ∧ item.NoBrackets ∧ template.Unhidden item .empty ∧
      render template item .empty = "[b]Smith, J.[/b] [i]Why?[/i]".toList ∧
      unspaced (Format.plain.export (render template item .empty)) =
        unspaced (Format.plain.export (render template.stripped item .empty)) := by
  have hmarked : WellMarkedTexts
      (compile "[b]creator1[/b]. |[i]title[/i]|.".toList .bibliography) := by
    decide +kernel
  have hitem : Item.NoBrackets
      (.ofList [("creator1".toList, "Smith, J.".toList), ("title".toList, "Why?".toList)]) := by
    decide +kernel
  have hseams : Unhidden (compile "[b]creator1[/b]. |[i]title[/i]|.".toList .bibliography)
      (.ofList [("creator1".toList, "Smith, J.".toList), ("title".toList, "Why?".toList)])
      .empty := by
    decide +kernel
  exact ⟨hmarked, hitem, hseams, by decide +kernel, unspaced_render_stripped hmarked hitem hseams⟩

-- A marker hides the full stop of the closing text.
theorem unspaced_render_ne_stripped :
    let template := compile "title|[b].[/b]".toList .bibliography
    let item := Item.ofList [("title".toList, "Why?".toList)]
    template.WellMarkedTexts ∧ item.NoBrackets ∧
      unspaced (Format.plain.export (render template item .empty)) = "Why?.".toList ∧
      unspaced (Format.plain.export (render template.stripped item .empty)) = "Why?".toList := by
  decide +kernel

-- A marker stands before a value, or behind a blank at the end.
example :
    let beforeValue := compile "creator1.|[b]title".toList .bibliography
    let network := Item.ofList [("creator1".toList, "Smith".toList), ("title".toList, ".net".toList)]
    let behindBlank := compile "title. [b][/b]|.".toList .bibliography
    let question := Item.ofList [("title".toList, "Why".toList)]
    render beforeValue network .empty = "Smith.[b].net".toList ∧
      render beforeValue.stripped network .empty = "Smith.net".toList ∧
      render behindBlank question .empty = "Why. [b][/b].".toList ∧
      render behindBlank.stripped question .empty = "Why.".toList := by
  decide +kernel

end Referencing.Template
