import Referencing.Citation.Source

namespace Referencing

-- The locator of a citation. An empty one is the same as none.
def Occurrence.locator (occurrence : Occurrence) : Text :=
  (occurrence.values.stored.get? "pages".toList).getD []

theorem Occurrence.pages?_eq (occurrence : Occurrence) :
    occurrence.pages? = if occurrence.locator = [] then none else some occurrence.locator := by
  unfold pages? locator Item.get?
  cases occurrence.values.stored.get? "pages".toList with
  | none => rfl
  | some pages => by_cases h : pages = [] <;> simp [Option.filter, h]

theorem Occurrence.pages?_eq_iff (left right : Occurrence) :
    left.pages? = right.pages? ↔ left.locator = right.locator := by
  rw [left.pages?_eq, right.pages?_eq]
  by_cases hl : left.locator = []
  · by_cases hr : right.locator = [] <;> simp [hl, hr]
  · by_cases hr : right.locator = [] <;> simp [hl, hr]

namespace Citation

open Markup

def Source.knows (source : Source) (occurrence : Occurrence) : Bool :=
  (source.library.get? occurrence.id).isSome

-- The occurrences that are cited, because the library has their resource.
def Source.known (source : Source) (occurrences : List Occurrence) : List Occurrence :=
  occurrences.filter source.knows

variable {source : Source} {occurrence : Occurrence} {resource : Resource}

theorem Source.knows_of_get? (h : source.library.get? occurrence.id = some resource) :
    source.knows occurrence = true := by
  simp [knows, h]

theorem Source.not_knows_of_get? (h : source.library.get? occurrence.id = none) :
    source.knows occurrence = false := by
  simp [knows, h]

@[simp] theorem Source.known_nil : source.known [] = [] := rfl

theorem Source.known_concat_of_get? (occurrences : List Occurrence)
    (h : source.library.get? occurrence.id = some resource) :
    source.known (occurrences ++ [occurrence]) = source.known occurrences ++ [occurrence] := by
  simp [known, knows_of_get? h]

theorem Source.known_concat_of_not_get? (occurrences : List Occurrence)
    (h : source.library.get? occurrence.id = none) :
    source.known (occurrences ++ [occurrence]) = source.known occurrences := by
  simp [known, not_knows_of_get? h]

theorem Source.known_append (left right : List Occurrence) :
    source.known (left ++ right) = source.known left ++ source.known right :=
  List.filter_append left right

theorem Source.known_cons (occurrence : Occurrence) (rest : List Occurrence) :
    source.known (occurrence :: rest) = source.known [occurrence] ++ source.known rest :=
  source.known_append [occurrence] rest

theorem Source.known_flatMap {α : Type} (entries : List α) (occurrences : α → List Occurrence) :
    source.known (entries.flatMap occurrences) =
      entries.flatMap fun entry => source.known (occurrences entry) :=
  List.filter_flatMap

-- An occurrence of a known resource is itself known.
theorem Source.mem_known_ids_iff {occurrences : List Occurrence}
    (h : source.library.get? occurrence.id = some resource) :
    occurrence.id ∈ (source.known occurrences).map (·.id) ↔
      ∃ other ∈ occurrences, other.id = occurrence.id := by
  simp only [known, knows, List.mem_map, List.mem_filter]
  constructor
  · rintro ⟨other, ⟨hmem, -⟩, hid⟩
    exact ⟨other, hmem, hid⟩
  · rintro ⟨other, hmem, hid⟩
    exact ⟨other, ⟨hmem, by simp [hid, h]⟩, hid⟩

-- What tells apart the works that a document cites.
def Source.disambiguation (source : Source) (document : Document) : Disambiguation :=
  .ofOccurrences source.library source.style.citation document.citations

def Cited.export (format : Format) (cited : Cited) : Cited :=
  { cited with text := format.export cited.text }

end Citation

end Referencing
