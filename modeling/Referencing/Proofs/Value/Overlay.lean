import Referencing.Value.Prepared

namespace Referencing

namespace Item

-- The values that are there, as a dictionary of their own.
def present (item : Item) : Dict Text where
  entries := item.toList
  distinct := (List.filter_sublist.map _).nodup item.stored.distinct

theorem get?_present (item : Item) (field : Text) : item.present.get? field = item.get? field := by
  refine Option.ext fun value => ?_
  rw [Dict.get?_eq_some_iff, get?_eq_some_iff]
  rfl

-- A field that is written once has what is written.
theorem get?_foldl_insert {entries : List (Text × Text)}
    (hdistinct : (entries.map (·.1)).Nodup) (hvalues : ∀ entry ∈ entries, entry.2 ≠ [])
    (item : Item) (field : Text) :
    (entries.foldl (fun merged entry => merged.insert entry.1 entry.2) item).get? field =
      (entries.lookup field).or (item.get? field) := by
  induction entries generalizing item with
  | nil => rfl
  | cons entry rest ih =>
    obtain ⟨name, value⟩ := entry
    rw [List.map_cons, List.nodup_cons] at hdistinct
    rw [List.forall_mem_cons] at hvalues
    rw [List.foldl_cons, ih hdistinct.2 hvalues.2, get?_insert]
    by_cases h : field = name
    · have hrest : rest.lookup field = none := by
        rw [List.lookup_eq_none_iff]
        intro other hother
        have hne : field ≠ other.1 := by
          intro same
          have hmem : other.1 ∈ rest.map (·.1) := List.mem_map_of_mem hother
          exact hdistinct.1 (h ▸ same ▸ hmem)
        simpa using hne
      rw [hrest, h, List.lookup_cons_self]
      simp [hvalues.1]
    · have hb : (field == name) = false := by simp [h]
      simp only [h, if_false, List.lookup_cons, hb]

-- Of two items merged the second one has precedence.
theorem get?_merge (item other : Item) (field : Text) :
    (item.merge other).get? field = (other.get? field).or (item.get? field) := by
  have hvalues : ∀ entry ∈ other.present.entries, entry.2 ≠ [] := by
    intro entry hentry
    simpa using (List.mem_filter.1 hentry).2
  rw [← other.get?_present]
  exact get?_foldl_insert other.present.distinct hvalues item field

end Item

theorem Plurals.isPlural_insert (plurals : Plurals) (field other : Text) (plural : Bool) :
    Plurals.isPlural (plurals.insert field plural) other =
      if other = field then plural else plurals.isPlural other := by
  rw [isPlural, Dict.get?_insert]
  split <;> rfl

namespace Value

-- An occurrence laid over values that were prepared.
structure Overlays (form : PageForm) (occurrence : Item) (before after : Prepared) : Prop where
  -- The locator stands for all pages that there were, and so does the lack of one.
  pages : after.item.get? "pages".toList =
    ((occurrence.get? "pages".toList).map fun entered => (layoutPages form entered).text).filter
      (· ≠ [])
  plural : after.plurals.isPlural "pages".toList =
    (occurrence.get? "pages".toList).any fun entered => (layoutPages form entered).isPlural
  -- Any other value that the occurrence has is taken as it is.
  replaced : ∀ field value, field ≠ "pages".toList → occurrence.get? field = some value →
    after.item.get? field = some value
  kept : ∀ field, field ≠ "pages".toList → occurrence.get? field = none →
    after.item.get? field = before.item.get? field
  flags : ∀ field, field ≠ "pages".toList →
    after.plurals.isPlural field = before.plurals.isPlural field

variable (form : PageForm) (occurrence : Item) (prepared : Prepared)

-- What is there before the locator is laid out.
def merged (occurrence : Item) (prepared : Prepared) : Item :=
  (prepared.item.erase "pages".toList).merge occurrence

theorem get?_merged (field : Text) :
    (merged occurrence prepared).get? field =
      (occurrence.get? field).or
        (if field = "pages".toList then none else prepared.item.get? field) := by
  rw [merged, Item.get?_merge, Item.get?_erase]

theorem overlay_of_none (h : occurrence.get? "pages".toList = none) :
    overlay form occurrence prepared =
      ⟨merged occurrence prepared, prepared.plurals.insert "pages".toList false⟩ := by
  rw [overlay, h]
  rfl

theorem overlay_of_some {entered : Text} (h : occurrence.get? "pages".toList = some entered) :
    overlay form occurrence prepared =
      ⟨(merged occurrence prepared).insert "pages".toList (layoutPages form entered).text,
        (prepared.plurals.insert "pages".toList false).insert "pages".toList
          (layoutPages form entered).isPlural⟩ := by
  rw [overlay, h]
  rfl

-- The values of the occurrence over those that are left without pages.
theorem get?_overlay (field : Text) :
    (overlay form occurrence prepared).item.get? field =
      if field = "pages".toList then
        ((occurrence.get? field).map fun entered => (layoutPages form entered).text).filter
          (· ≠ [])
      else (occurrence.get? field).or (prepared.item.get? field) := by
  cases hpages : occurrence.get? "pages".toList with
  | none =>
    rw [overlay_of_none form occurrence prepared hpages, get?_merged]
    by_cases hfield : field = "pages".toList
    · rw [if_pos hfield, if_pos hfield, hfield, hpages]
      rfl
    · rw [if_neg hfield, if_neg hfield]
  | some entered =>
    rw [overlay_of_some form occurrence prepared hpages, Item.get?_insert, get?_merged]
    by_cases hfield : field = "pages".toList
    · rw [if_pos hfield, if_pos hfield, hfield, hpages, Option.map_some, Option.filter_some]
      by_cases htext : (layoutPages form entered).text = [] <;> simp [htext]
    · rw [if_neg hfield, if_neg hfield, if_neg hfield]

theorem isPlural_overlay (field : Text) :
    (overlay form occurrence prepared).plurals.isPlural field =
      if field = "pages".toList then
        (occurrence.get? field).any fun entered => (layoutPages form entered).isPlural
      else prepared.plurals.isPlural field := by
  cases hpages : occurrence.get? "pages".toList with
  | none =>
    rw [overlay_of_none form occurrence prepared hpages, Plurals.isPlural_insert]
    by_cases hfield : field = "pages".toList
    · rw [if_pos hfield, if_pos hfield, hfield, hpages]
      rfl
    · rw [if_neg hfield, if_neg hfield]
  | some entered =>
    rw [overlay_of_some form occurrence prepared hpages, Plurals.isPlural_insert,
      Plurals.isPlural_insert]
    by_cases hfield : field = "pages".toList
    · rw [if_pos hfield, if_pos hfield, hfield, hpages]
      rfl
    · rw [if_neg hfield, if_neg hfield, if_neg hfield]

theorem overlays_overlay :
    Overlays form occurrence prepared (overlay form occurrence prepared) where
  pages := by rw [get?_overlay, if_pos rfl]
  plural := by rw [isPlural_overlay, if_pos rfl]
  replaced field value hfield h := by rw [get?_overlay, if_neg hfield, h, Option.some_or]
  kept field hfield h := by rw [get?_overlay, if_neg hfield, h, Option.none_or]
  flags field hfield := by rw [isPlural_overlay, if_neg hfield]

-- A citation has the values of its occurrence over those of the resource, and so has
-- whatever else an occurrence is laid over.
theorem overlays_prepareCitation (style : Style) (compiled : CompiledStyle) (occurrence : Item)
    (resource : Resource) :
    Overlays style.citation.pageForm occurrence (prepare style compiled .citation resource)
        (prepareCitation style compiled occurrence resource) ∧
      ∀ (form : PageForm) (prepared : Prepared),
        Overlays form occurrence prepared (overlay form occurrence prepared) :=
  ⟨overlays_overlay _ _ _, fun form prepared => overlays_overlay form occurrence prepared⟩

-- A range of pages that the resource has is plural no longer.
example :
    let resource : Resource :=
      { values := .ofList [("pageStart".toList, ['1']), ("pageEnd".toList, "30".toList),
          ("title".toList, "Essays".toList)] }
    let occurrence := Item.ofList [("pages".toList, " 7 ".toList), ("volume".toList, [])]
    let prepared := prepareCitation {} (.ofStyle {}) occurrence resource
    prepared.item.toList = [("title".toList, "Essays".toList), ("pages".toList, ['7'])] ∧
      prepared.plurals.isPlural "pages".toList = false := by
  decide +kernel

end Value

end Referencing
