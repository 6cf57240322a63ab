import Referencing.Text.Basic

namespace Referencing.Template

open Text

-- The order in which field names are tried: longer ones first, so that a name
-- wins over its own beginning; equally long ones in the order of their
-- characters.
def Precedes (left right : Text) : Prop :=
  size right < size left ∨ size left = size right ∧ left < right

instance (left right : Text) : Decidable (Precedes left right) :=
  inferInstanceAs (Decidable (_ ∨ _))

theorem Precedes.irrefl (name : Text) : ¬Precedes name name := by
  rintro (h | ⟨-, h⟩)
  · exact Nat.lt_irrefl _ h
  · exact List.lt_irrefl name h

theorem Precedes.trans {first second third : Text} (h : Precedes first second)
    (h' : Precedes second third) : Precedes first third := by
  rcases h with h | ⟨hsize, h⟩ <;> rcases h' with h' | ⟨hsize', h'⟩
  · exact .inl (Nat.lt_trans h' h)
  · exact .inl (hsize' ▸ h)
  · exact .inl (hsize ▸ h')
  · exact .inr ⟨hsize.trans hsize', List.lt_trans h h'⟩

theorem Precedes.total {left right : Text} (h : ¬Precedes left right) (hne : left ≠ right) :
    Precedes right left := by
  simp only [Precedes, not_or, not_and] at h
  rcases Nat.lt_or_ge (size left) (size right) with hsize | hsize
  · exact .inl hsize
  · have heq : size left = size right := by omega
    refine .inr ⟨heq.symm, Decidable.byContradiction fun hlt => hne ?_⟩
    exact List.le_antisymm (List.not_lt.1 hlt) (List.not_lt.1 (h.2 heq))

-- The field names a template may use. Names are not empty and are kept in the
-- order in which they are tried, so equal sets are equal values.
structure FieldSet where
  names : List Text
  ordered : names.Pairwise Precedes
  named : ∀ name ∈ names, name ≠ []

namespace FieldSet

@[ext] theorem ext {left right : FieldSet} (h : left.names = right.names) : left = right := by
  cases left; cases right; simp_all

def empty : FieldSet where
  names := []
  ordered := .nil
  named := by simp

def placed (name : Text) : List Text → List Text
  | [] => [name]
  | other :: rest =>
    if Precedes name other then name :: other :: rest
    else if name = other then other :: rest
    else other :: placed name rest

theorem mem_placed {name other : Text} {names : List Text} :
    other ∈ placed name names ↔ other = name ∨ other ∈ names := by
  induction names with
  | nil => simp [placed]
  | cons head rest ih =>
    simp only [placed]
    split
    · simp
    · split
      · next h => subst h; simp
      · simp only [List.mem_cons, ih]; grind

theorem pairwise_placed {name : Text} {names : List Text} (h : names.Pairwise Precedes) :
    (placed name names).Pairwise Precedes := by
  induction names with
  | nil => simp [placed]
  | cons head rest ih =>
    have hhead := List.pairwise_cons.1 h
    simp only [placed]
    split
    · next hname =>
      refine List.pairwise_cons.2 ⟨?_, h⟩
      intro other hother
      rcases List.mem_cons.1 hother with rfl | hrest
      · exact hname
      · exact hname.trans (hhead.1 other hrest)
    · next hname =>
      split
      · exact h
      · next hne =>
        refine List.pairwise_cons.2 ⟨?_, ih hhead.2⟩
        intro other hother
        rcases mem_placed.1 hother with rfl | hrest
        · exact Precedes.total hname hne
        · exact hhead.1 other hrest

-- An empty name is left out.
def insert (fields : FieldSet) (name : Text) : FieldSet :=
  if h : name = [] then fields
  else
    { names := placed name fields.names
      ordered := pairwise_placed fields.ordered
      named := by
        intro other hother
        rcases mem_placed.1 hother with rfl | hrest
        · exact h
        · exact fields.named other hrest }

def extend (fields : FieldSet) (names : List Text) : FieldSet :=
  names.foldl insert fields

def ofList (names : List Text) : FieldSet :=
  empty.extend names

def contains (fields : FieldSet) (name : Text) : Bool :=
  fields.names.contains name

-- The first name with a property is one that no other name with it precedes.
theorem find?_eq_some {fields : FieldSet} {name : Text} {p : Text → Bool}
    (hmem : name ∈ fields.names) (hname : p name = true)
    (h : ∀ other, p other = true → ¬Precedes other name) :
    fields.names.find? p = some name := by
  cases hfind : fields.names.find? p with
  | none => exact absurd hname (List.find?_eq_none.1 hfind name hmem)
  | some found =>
    obtain ⟨hfound, earlier, later, hnames, hearlier⟩ := List.find?_eq_some_iff_append.1 hfind
    have hordered := fields.ordered
    rw [hnames] at hmem hordered
    rcases List.mem_append.1 hmem with hmem | hmem
    · simpa [hname] using hearlier name hmem
    · rcases List.mem_cons.1 hmem with rfl | hmem
      · rfl
      · have hprecedes := (List.pairwise_cons.1 (List.pairwise_append.1 hordered).2.1).1 name hmem
        exact absurd hprecedes (h found hfound)

def bibliographicNames : List Text :=
  ["creator1", "creator2", "creator3", "creator4", "creator5", "title", "shortTitle", "transTitle",
    "year1", "year2", "year3", "date", "pages", "edition", "volume", "issue", "number", "series",
    "seriesNumber", "collection", "collectionVolume", "publisherName", "publisherLocation",
    "institution", "medium", "genre", "runningTime", "isbn", "doi", "URL", "note",
    "id"].map String.toList

def citationNames : List Text :=
  ["creator", "year", "title", "shortTitle", "pages", "id"].map String.toList

def bibliography : FieldSet :=
  ofList bibliographicNames

-- A citation can use the fields of the bibliography as well.
def citation : FieldSet :=
  (ofList citationNames).extend bibliographicNames

end FieldSet

end Referencing.Template
