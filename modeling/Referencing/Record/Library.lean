import Referencing.Record.Resource

namespace Referencing

-- The resources that can be cited, in the order of the bibliography. No two of
-- them have the same id.
structure Library where
  resources : List Resource
  distinct : (resources.map (·.id)).Nodup

namespace Library

def empty : Library := ⟨[], by simp⟩

instance : Inhabited Library := ⟨empty⟩

-- A resource with a known id takes the place of the old one.
def placed (resource : Resource) : List Resource → List Resource
  | [] => [resource]
  | other :: rest =>
    if other.id = resource.id then resource :: rest else other :: placed resource rest

theorem map_placed (resource : Resource) (resources : List Resource) :
    (placed resource resources).map (·.id) =
      if resource.id ∈ resources.map (·.id) then resources.map (·.id)
      else resources.map (·.id) ++ [resource.id] := by
  induction resources with
  | nil => simp [placed]
  | cons other rest ih =>
    simp only [placed]
    by_cases h : other.id = resource.id
    · simp [h]
    · simp only [h, ↓reduceIte, List.map_cons, ih, List.mem_cons, Ne.symm h, false_or]
      split <;> simp

def insert (library : Library) (resource : Resource) : Library where
  resources := placed resource library.resources
  distinct := by
    rw [map_placed]
    split
    · exact library.distinct
    · next h =>
      refine List.nodup_append.2 ⟨library.distinct, by simp, ?_⟩
      intro a ha b hb
      simp only [List.mem_singleton] at hb
      exact fun same => h (hb ▸ same ▸ ha)

def ofList (resources : List Resource) : Library :=
  resources.foldl insert empty

def get? (library : Library) (id : Text) : Option Resource :=
  library.resources.find? (·.id = id)

-- The place of a resource in the bibliography, counted from zero.
def position? (library : Library) (id : Text) : Option Nat :=
  library.resources.findIdx? (·.id = id)

def size (library : Library) : Nat :=
  library.resources.length

theorem find?_placed (resource : Resource) (id : Text) (resources : List Resource) :
    (placed resource resources).find? (·.id = id) =
      if id = resource.id then some resource else resources.find? (·.id = id) := by
  induction resources with
  | nil => by_cases h : id = resource.id <;> simp [placed, h, Ne.symm]
  | cons other rest ih =>
    simp only [placed]
    by_cases hother : other.id = resource.id
    · by_cases h : id = resource.id
      · simp [hother, h]
      · simp [hother, h, Ne.symm h]
    · by_cases h : other.id = id
      · have hne : id ≠ resource.id := fun same => hother (h.trans same)
        simp [h, hne]
      · simp [hother, h, ih]

@[simp] theorem get?_insert (library : Library) (resource : Resource) (id : Text) :
    (library.insert resource).get? id =
      if id = resource.id then some resource else library.get? id :=
  find?_placed resource id library.resources

theorem position?_eq_none_iff (library : Library) (id : Text) :
    library.position? id = none ↔ library.get? id = none := by
  simp [position?, get?]

theorem id_of_position? {library : Library} {id : Text} {place : Nat}
    (h : library.position? id = some place) :
    (library.resources[place]?).map (·.id) = some id := by
  obtain ⟨hlt, hid, -⟩ := List.findIdx?_eq_some_iff_getElem.1 h
  simpa [List.getElem?_eq_getElem hlt] using hid

-- No other resource of a library has the same id.
theorem get?_of_mem {library : Library} {resource : Resource}
    (h : resource ∈ library.resources) : library.get? resource.id = some resource := by
  obtain ⟨before, after, hsplit⟩ := List.append_of_mem h
  have hdistinct := library.distinct
  rw [hsplit, List.map_append, List.map_cons] at hdistinct
  refine List.find?_eq_some_iff_append.2 ⟨by simp, before, after, hsplit, fun other hother => ?_⟩
  have hne := (List.nodup_append.1 hdistinct).2.2 other.id (List.mem_map_of_mem hother)
    resource.id List.mem_cons_self
  simpa using hne

end Library

def Library.form : Form Library where
  read dialect tree := ((Form.list Resource.form).read dialect tree).map Library.ofList
  write library := (Form.list Resource.form).write library.resources

end Referencing
