import Referencing.Data.Form

namespace Referencing

-- One part of a record: the name it is written under, how it is read into a
-- record, and how it is written, if it is written at all.
structure Field (ρ : Type) where
  name : Text
  read : {κ σ : Type} → Dialect κ σ → Tree κ σ → ρ → Option ρ
  write : ρ → Option Json

namespace Field

variable {α ρ : Type}

def always (name : String) (form : Form α) (get : ρ → α) (set : α → ρ → ρ) : Field ρ where
  name := name.toList
  read dialect tree record := (form.read dialect tree).map (set · record)
  write record := some (form.write (get record))

-- A part that is left out of the written form when it is empty.
def sparing (name : String) (form : Form α) (isEmpty : α → Bool) (get : ρ → α)
    (set : α → ρ → ρ) : Field ρ where
  name := name.toList
  read dialect tree record := (form.read dialect tree).map (set · record)
  write record := if isEmpty (get record) then none else some (form.write (get record))

def optional (name : String) (form : Form α) (get : ρ → Option α)
    (set : Option α → ρ → ρ) : Field ρ :=
  sparing name form.option Option.isNone get set

variable {κ σ : Type}

def readEntries (fields : List (Field ρ)) (dialect : Dialect κ σ) (seen : List Text)
    (record : ρ) : List (κ × Tree κ σ) → Option ρ
  | [] => some record
  | (key, tree) :: rest =>
    match dialect.key? key with
    | none => none
    | some name =>
      match fields.find? (·.name = name) with
      | none => readEntries fields dialect seen record rest
      | some field =>
        if name ∈ seen then none
        else
          match field.read dialect tree record with
          | none => none
          | some record => readEntries fields dialect (name :: seen) record rest

-- A field that has not been given before is read into the record.
theorem readEntries_cons {fields : List (Field ρ)} {dialect : Dialect κ σ} {seen : List Text}
    {record next : ρ} {field : Field ρ} {key : κ} {tree : Tree κ σ} {rest : List (κ × Tree κ σ)}
    (hname : dialect.key? key = some field.name)
    (hfound : fields.find? (·.name = field.name) = some field) (hseen : field.name ∉ seen)
    (hread : field.read dialect tree record = some next) :
    readEntries fields dialect seen record ((key, tree) :: rest) =
      readEntries fields dialect (field.name :: seen) next rest := by
  show (match dialect.key? key with
    | none => none
    | some name =>
      match fields.find? fun field : Field ρ => field.name = name with
      | none => readEntries fields dialect seen record rest
      | some field =>
        if name ∈ seen then none
        else
          match field.read dialect tree record with
          | none => none
          | some record => readEntries fields dialect (name :: seen) record rest) = _
  simp only [hname, hfound, if_neg hseen, hread]

-- An entry is passed over, or it is read into a field that was not given before.
theorem readEntries_cons_cases {fields : List (Field ρ)} {dialect : Dialect κ σ}
    {seen : List Text} {record final : ρ} {key : κ} {tree : Tree κ σ} {rest : List (κ × Tree κ σ)}
    (h : readEntries fields dialect seen record ((key, tree) :: rest) = some final) :
    ∃ name, dialect.key? key = some name ∧
      (fields.find? (·.name = name) = none ∧
          readEntries fields dialect seen record rest = some final ∨
        ∃ field next, fields.find? (·.name = name) = some field ∧ name ∉ seen ∧
          field.read dialect tree record = some next ∧
          readEntries fields dialect (name :: seen) next rest = some final) := by
  change (match dialect.key? key with
    | none => none
    | some name =>
      match fields.find? fun field : Field ρ => field.name = name with
      | none => readEntries fields dialect seen record rest
      | some field =>
        if name ∈ seen then none
        else
          match field.read dialect tree record with
          | none => none
          | some record => readEntries fields dialect (name :: seen) record rest) = some final at h
  cases hkey : dialect.key? key with
  | none => simp [hkey] at h
  | some name =>
    refine ⟨name, rfl, ?_⟩
    cases hfound : fields.find? (·.name = name) with
    | none =>
      simp only [hkey, hfound] at h
      exact .inl ⟨rfl, h⟩
    | some field =>
      by_cases hseen : name ∈ seen
      · simp [hkey, hfound, hseen] at h
      · cases hread : field.read dialect tree record with
        | none => simp [hkey, hfound, hread] at h
        | some next =>
          simp only [hkey, hfound, hseen, hread, if_false] at h
          exact .inr ⟨field, next, rfl, hseen, hread, h⟩

-- Whether every field was given, and the record.
def readItems (dialect : Dialect κ σ) (record : ρ) :
    List (Field ρ) → List (Tree κ σ) → Option (Bool × ρ)
  | fields, [] => some (fields.isEmpty, record)
  | [], _ :: _ => none
  | field :: fields, tree :: rest =>
    match field.read dialect tree record with
    | none => none
    | some record => readItems dialect record fields rest

end Field

namespace Form

variable {ρ : Type}

-- A record is a mapping from the names of its fields, in which a known name
-- stands once and an unknown one is passed over, or in some notations a list of
-- its fields in order. What is not mentioned has its default. `sparse` tells
-- whether the list may be shorter than the table.
def recordWith (sparse : Bool) (fields : List (Field ρ)) (default : ρ) : Form ρ where
  read dialect
    | .mapping entries => Field.readEntries fields dialect [] default entries
    | .list items =>
      match Field.readItems dialect default fields items with
      | some (whole, record) =>
        if dialect.listedRecord && (sparse || whole) then some record else none
      | none => none
    | .leaf value => if dialect.isVoid value then some default else none
  write record := Json.object (fields.filterMap fun field =>
    (field.write record).map fun tree => (field.name, tree))

def record (fields : List (Field ρ)) (default : ρ) : Form ρ :=
  recordWith true fields default

end Form

end Referencing
