import Referencing.Text.Basic

namespace Referencing

-- A dictionary that keeps the order in which its keys were first given.
structure Dict (α : Type) where
  entries : List (Text × α)
  distinct : (entries.map (·.1)).Nodup := by simp

namespace Dict

variable {α β : Type}

def empty : Dict α where
  entries := []

instance : Inhabited (Dict α) := ⟨empty⟩

@[ext] theorem ext {left right : Dict α} (h : left.entries = right.entries) : left = right := by
  cases left; cases right; simp_all

instance [DecidableEq α] : DecidableEq (Dict α) := fun left right =>
  if h : left.entries = right.entries then isTrue (ext h)
  else isFalse fun same => h (same ▸ rfl)

def keys (dict : Dict α) : List Text :=
  dict.entries.map (·.1)

def get? (dict : Dict α) (key : Text) : Option α :=
  dict.entries.lookup key

def contains (dict : Dict α) (key : Text) : Bool :=
  dict.keys.contains key

def isEmpty (dict : Dict α) : Bool :=
  dict.entries.isEmpty

def size (dict : Dict α) : Nat :=
  dict.entries.length

-- A new value for a known key takes the place of the old one.
def place (key : Text) (value : α) : List (Text × α) → List (Text × α)
  | [] => [(key, value)]
  | (other, old) :: rest =>
    if other = key then (key, value) :: rest else (other, old) :: place key value rest

theorem map_place (key : Text) (value : α) (entries : List (Text × α)) :
    (place key value entries).map (·.1) =
      if key ∈ entries.map (·.1) then entries.map (·.1) else entries.map (·.1) ++ [key] := by
  induction entries with
  | nil => simp [place]
  | cons entry rest ih =>
    obtain ⟨other, old⟩ := entry
    simp only [place]
    by_cases h : other = key
    · simp [h]
    · simp only [h, ↓reduceIte, List.map_cons, ih, List.mem_cons, Ne.symm h, false_or]
      split <;> simp

def insert (dict : Dict α) (key : Text) (value : α) : Dict α where
  entries := place key value dict.entries
  distinct := by
    rw [map_place]
    split
    · exact dict.distinct
    · next h =>
      refine List.nodup_append.2 ⟨dict.distinct, by simp, ?_⟩
      intro a ha b hb
      simp only [List.mem_singleton] at hb
      exact fun same => h (hb ▸ same ▸ ha)

def erase (dict : Dict α) (key : Text) : Dict α where
  entries := dict.entries.filter (·.1 ≠ key)
  distinct := (List.filter_sublist.map _).nodup dict.distinct

def ofList (entries : List (Text × α)) : Dict α :=
  entries.foldl (fun dict entry => dict.insert entry.1 entry.2) empty

def mapValues (f : Text → α → β) (dict : Dict α) : Dict β where
  entries := dict.entries.map fun (key, value) => (key, f key value)
  distinct := by
    simpa only [List.map_map, Function.comp_def] using dict.distinct

theorem lookup_place (key other : Text) (value : α) (entries : List (Text × α)) :
    (place key value entries).lookup other =
      if other = key then some value else entries.lookup other := by
  induction entries with
  | nil => by_cases h : other = key <;> simp [place, h]
  | cons entry rest ih =>
    obtain ⟨name, old⟩ := entry
    by_cases hn : name = key
    · by_cases ho : other = key
      · simp [place, hn, ho]
      · have hb : (other == key) = false := by simp [ho]
        simp [place, List.lookup_cons, hn, ho, hb]
    · by_cases ho : other = name
      · have hk : other ≠ key := fun h => hn (ho ▸ h)
        simp [place, hn, ho]
      · have hb : (other == name) = false := by simp [ho]
        simp [place, hn, List.lookup_cons, hb, ih]

@[simp] theorem get?_insert (dict : Dict α) (key other : Text) (value : α) :
    (dict.insert key value).get? other = if other = key then some value else dict.get? other :=
  lookup_place key other value dict.entries

-- The value that a key has already changes nothing.
theorem place_of_lookup {key : Text} {value : α} {entries : List (Text × α)}
    (h : entries.lookup key = some value) : place key value entries = entries := by
  induction entries with
  | nil => simp at h
  | cons entry rest ih =>
    obtain ⟨name, old⟩ := entry
    by_cases hn : name = key
    · subst hn
      simp only [List.lookup_cons_self, Option.some.injEq] at h
      simp [place, h]
    · have hb : (key == name) = false := by simp [Ne.symm hn]
      simp only [List.lookup_cons, hb] at h
      simp [place, hn, ih h]

theorem insert_of_get? {dict : Dict α} {key : Text} {value : α} (h : dict.get? key = some value) :
    dict.insert key value = dict :=
  ext (place_of_lookup h)

theorem lookup_filter_ne (key other : Text) (entries : List (Text × α)) :
    (entries.filter (·.1 ≠ key)).lookup other =
      if other = key then none else entries.lookup other := by
  induction entries with
  | nil => simp
  | cons entry rest ih =>
    obtain ⟨name, value⟩ := entry
    by_cases hn : name = key
    · by_cases ho : other = key
      · simpa [hn, ho] using ih
      · have hb : (other == key) = false := by simp [ho]
        simpa [hn, ho, List.lookup_cons, hb] using ih
    · by_cases ho : other = name
      · have hk : other ≠ key := fun h => hn (ho ▸ h)
        simp [hn, ho]
      · have hb : (other == name) = false := by simp [ho]
        simpa [hn, List.lookup_cons, hb] using ih

@[simp] theorem get?_erase (dict : Dict α) (key other : Text) :
    (dict.erase key).get? other = if other = key then none else dict.get? other :=
  lookup_filter_ne key other dict.entries

@[simp] theorem get?_empty (key : Text) : (empty : Dict α).get? key = none := rfl

-- Entries of other names leave the value of a key as it was.
theorem get?_foldl_insert_of_forall_ne {ι : Type} {name : ι → Text} {given : ι → α} {key : Text}
    {items : List ι} (h : ∀ item ∈ items, name item ≠ key) (dict : Dict α) :
    (items.foldl (fun dict item => dict.insert (name item) (given item)) dict).get? key =
      dict.get? key := by
  induction items generalizing dict with
  | nil => rfl
  | cons item rest ih =>
    rw [List.forall_mem_cons] at h
    rw [List.foldl_cons, ih h.2, get?_insert, if_neg (Ne.symm h.1)]

-- A key has one entry, so that looking it up finds every entry.
theorem get?_eq_some_iff (dict : Dict α) (key : Text) (value : α) :
    dict.get? key = some value ↔ (key, value) ∈ dict.entries := by
  constructor
  · intro h
    obtain ⟨before, after, hentries, -⟩ := List.lookup_eq_some_iff.1 h
    simp [hentries]
  · intro h
    obtain ⟨before, after, hentries⟩ := List.append_of_mem h
    refine List.lookup_eq_some_iff.2 ⟨before, after, hentries, fun entry hentry => ?_⟩
    have hdistinct := dict.distinct
    rw [hentries, List.map_append, List.map_cons] at hdistinct
    have hne := (List.nodup_append.1 hdistinct).2.2 entry.1 (List.mem_map_of_mem hentry) key
      (List.mem_cons_self)
    simpa using Ne.symm hne

theorem contains_eq_isSome (dict : Dict α) (key : Text) :
    dict.contains key = (dict.get? key).isSome := by
  rw [Bool.eq_iff_iff, contains, List.contains_iff_mem, Option.isSome_iff_exists]
  constructor
  · intro h
    obtain ⟨⟨_, value⟩, hentry, rfl⟩ := List.mem_map.1 h
    exact ⟨value, (get?_eq_some_iff dict _ value).2 hentry⟩
  · rintro ⟨value, h⟩
    exact List.mem_map_of_mem ((get?_eq_some_iff dict key value).1 h)

theorem keys_insert (dict : Dict α) (key : Text) (value : α) :
    (dict.insert key value).keys =
      if key ∈ dict.keys then dict.keys else dict.keys ++ [key] :=
  map_place key value dict.entries

theorem place_of_not_mem {key : Text} (value : α) {entries : List (Text × α)}
    (h : key ∉ entries.map (·.1)) : place key value entries = entries ++ [(key, value)] := by
  induction entries with
  | nil => rfl
  | cons entry rest ih =>
    obtain ⟨name, old⟩ := entry
    simp only [List.map_cons, List.mem_cons, not_or] at h
    simp [place, Ne.symm h.1, ih h.2]

-- A new key comes after all others.
theorem entries_insert_of_not_mem {dict : Dict α} {key : Text} (value : α)
    (h : key ∉ dict.keys) : (dict.insert key value).entries = dict.entries ++ [(key, value)] :=
  place_of_not_mem value h

theorem eq_empty_of_isEmpty {dict : Dict α} (h : dict.isEmpty) : dict = empty :=
  ext (List.isEmpty_iff.1 h)

end Dict

end Referencing
