import Referencing.Data.Dict

namespace Referencing

-- The values of one resource by field. An empty value is the same as none,
-- though it keeps its field's place.
structure Item where
  stored : Dict Text
  deriving DecidableEq

-- Which fields name more than one thing. A field that is not listed is
-- singular.
abbrev Plurals := Dict Bool

namespace Item

def empty : Item := ⟨Dict.empty⟩

instance : Inhabited Item := ⟨empty⟩

def ofList (values : List (Text × Text)) : Item :=
  ⟨Dict.ofList values⟩

def get? (item : Item) (field : Text) : Option Text :=
  (item.stored.get? field).filter (· ≠ [])

def has (item : Item) (field : Text) : Bool :=
  (item.get? field).isSome

def insert (item : Item) (field value : Text) : Item :=
  ⟨item.stored.insert field value⟩

def erase (item : Item) (field : Text) : Item :=
  ⟨item.stored.erase field⟩

-- The values that are there, in the order in which their fields were first
-- given.
def toList (item : Item) : List (Text × Text) :=
  item.stored.entries.filter (·.2 ≠ [])

-- Copies the values of `other` over those of `item`.
def merge (item other : Item) : Item :=
  other.toList.foldl (fun merged entry => merged.insert entry.1 entry.2) item

def isEmpty (item : Item) : Bool :=
  item.toList.isEmpty

theorem get?_eq_some_iff {item : Item} {field value : Text} :
    item.get? field = some value ↔ (field, value) ∈ item.toList := by
  rw [get?, Option.filter_eq_some_iff, Dict.get?_eq_some_iff, toList, List.mem_filter]

theorem ne_nil_of_get? {item : Item} {field value : Text} (h : item.get? field = some value) :
    value ≠ [] := by
  simp only [get?, Option.filter_eq_some_iff, decide_eq_true_eq] at h
  exact h.2

theorem insert_of_get? {item : Item} {field value : Text} (h : item.get? field = some value) :
    item.insert field value = item := by
  rw [insert, Dict.insert_of_get? (Option.filter_eq_some_iff.1 h).1]

@[simp] theorem get?_insert (item : Item) (field other value : Text) :
    (item.insert field value).get? other =
      if other = field then (if value = [] then none else some value) else item.get? other := by
  simp only [get?, insert, Dict.get?_insert]
  by_cases h : other = field
  · by_cases hv : value = [] <;> simp [h, hv]
  · simp [h]

@[simp] theorem get?_erase (item : Item) (field other : Text) :
    (item.erase field).get? other = if other = field then none else item.get? other := by
  simp only [get?, erase, Dict.get?_erase]
  by_cases h : other = field <;> simp [h]

end Item

def Plurals.isPlural (plurals : Plurals) (field : Text) : Bool :=
  (plurals.get? field).getD false

end Referencing
