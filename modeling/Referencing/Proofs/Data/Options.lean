import Referencing.Proofs.Data.Forms

namespace Referencing

variable {α ρ κ σ : Type}

-- What stands under a path of names.
def Json.at? : List Text → Json → Option Json
  | [], json => some json
  | name :: rest, .mapping entries => (entries.lookup name).bind (at? rest)
  | _ :: _, _ => none

theorem Json.at?_append (path rest : List Text) (json : Json) :
    at? (path ++ rest) json = (at? path json).bind (at? rest) := by
  induction path generalizing json with
  | nil => rfl
  | cons name path ih =>
    cases json with
    | leaf | list => rfl
    | mapping entries =>
      show (entries.lookup name).bind (at? (path ++ rest)) =
        ((entries.lookup name).bind (at? path)).bind (at? rest)
      rw [Option.bind_assoc]
      exact congrArg _ (funext ih)

namespace Field

-- What a record gives for a field: what it has under the name, or in a list what stands
-- in the place of the field.
def given? (dialect : Dialect κ σ) (table : List (Field ρ)) (name : Text) :
    Tree κ σ → Option (Tree κ σ)
  | .mapping entries => (entries.find? fun entry => dialect.key? entry.1 = some name).map (·.2)
  | .list items => ((table.zip items).find? fun entry => entry.1.name = name).map (·.2)
  | .leaf _ => none

-- What is written for a record, field by field.
def row (table : List (Field ρ)) (record : ρ) : List (Option Json) :=
  table.map (·.write record)

-- Reading a field changes one place of what is written.
structure SetsAt (table : List (Field ρ)) (place : Nat) (field : Field ρ) : Prop where
  sets : ∀ {κ σ : Type} {dialect : Dialect κ σ} {tree : Tree κ σ} {record next : ρ},
    field.read dialect tree record = some next →
      ∃ value, row table next = (row table record).set place value

section SetsAt

variable {table : List (Field ρ)} {place : Nat} {name : String} {form : Form α} {set : α → ρ → ρ}

theorem SetsAt.always {get : ρ → α}
    (h : ∀ value record, row table (set value record) =
      (row table record).set place (some (form.write value))) :
    (Field.always name form get set).SetsAt table place := by
  constructor
  intro κ σ dialect tree record next hread
  obtain ⟨value, -, rfl⟩ := Option.map_eq_some_iff.1 hread
  exact ⟨_, h value record⟩

theorem SetsAt.sparing {isEmpty : α → Bool} {get : ρ → α}
    (h : ∀ value record, row table (set value record) =
      (row table record).set place (if isEmpty value then none else some (form.write value))) :
    (Field.sparing name form isEmpty get set).SetsAt table place := by
  constructor
  intro κ σ dialect tree record next hread
  obtain ⟨value, -, rfl⟩ := Option.map_eq_some_iff.1 hread
  exact ⟨_, h value record⟩

end SetsAt

-- Each of the fields sets the place in which it comes.
inductive InPlace (table : List (Field ρ)) : Nat → List (Field ρ) → Prop
  | done {place : Nat} : InPlace table place []
  | step {place : Nat} {field : Field ρ} {fields : List (Field ρ)}
      (hfield : field.SetsAt table place) (hrest : InPlace table (place + 1) fields) :
      InPlace table place (field :: fields)

-- A table of fields with names and places of their own.
structure Apart (table : List (Field ρ)) : Prop where
  names : (table.map (·.name)).Nodup
  places : InPlace table 0 table

theorem InPlace.setsAt {table fields : List (Field ρ)} {place index : Nat} {field : Field ρ}
    (h : InPlace table place fields) (hfield : fields[index]? = some field) :
    field.SetsAt table (place + index) := by
  induction h generalizing index with
  | done => simp at hfield
  | @step place first fields hfirst _ ih =>
    cases index with
    | zero =>
      rw [List.getElem?_cons_zero, Option.some.injEq] at hfield
      exact hfield ▸ hfirst
    | succ index =>
      have hsets := ih hfield
      rwa [Nat.add_assoc, Nat.add_comm 1] at hsets

-- Reading one field leaves what is written for another one.
theorem Apart.write_eq {table : List (Field ρ)} (h : Apart table) {field other : Field ρ}
    (hfield : field ∈ table) (hother : other ∈ table) (hne : field.name ≠ other.name)
    {dialect : Dialect κ σ} {tree : Tree κ σ} {record next : ρ}
    (hread : other.read dialect tree record = some next) :
    field.write next = field.write record := by
  obtain ⟨index, hindex⟩ := List.mem_iff_getElem?.1 hfield
  obtain ⟨place, hplace⟩ := List.mem_iff_getElem?.1 hother
  have hapart : place ≠ index := by
    rintro rfl
    rw [hindex] at hplace
    exact hne (congrArg Field.name (Option.some.inj hplace))
  obtain ⟨value, hrow⟩ := (h.places.setsAt hplace).sets hread
  have hsame := congrArg (fun row : List (Option Json) => row[index]?) hrow
  simp only [Nat.zero_add] at hsame
  rw [List.getElem?_set_ne hapart, row, row, List.getElem?_map, List.getElem?_map, hindex] at hsame
  exact Option.some.inj hsame

-- A field is as it was if nothing is given for it, and otherwise as it is read from that.
def Settles (field : Field ρ) (dialect : Dialect κ σ) (record final : ρ) :
    Option (Tree κ σ) → Prop
  | none => field.write final = field.write record
  | some tree => ∃ before after,
    field.read dialect tree before = some after ∧ field.write final = field.write after

variable {table : List (Field ρ)} {field : Field ρ} {dialect : Dialect κ σ} {record final : ρ}

theorem Settles.congr {before : ρ} {given : Option (Tree κ σ)}
    (h : field.Settles dialect before final given)
    (hwrite : field.write before = field.write record) :
    field.Settles dialect record final given := by
  cases given with
  | none => exact Eq.trans h hwrite
  | some tree => exact h

-- A field that has been seen is not read again.
theorem settles_readEntries (h : Apart table) (hfield : field ∈ table)
    {entries : List (κ × Tree κ σ)} {seen : List Text}
    (hread : readEntries table dialect seen record entries = some final) :
    (field.name ∈ seen → field.write final = field.write record) ∧
      (field.name ∉ seen →
        field.Settles dialect record final (given? dialect table field.name (.mapping entries))) := by
  induction entries generalizing seen record with
  | nil =>
    cases hread
    exact ⟨fun _ => rfl, fun _ => rfl⟩
  | cons entry rest ih =>
    obtain ⟨key, tree⟩ := entry
    obtain ⟨name, hkey, hstep⟩ := readEntries_cons_cases hread
    have hgiven : given? dialect table field.name (.mapping ((key, tree) :: rest)) =
        if name = field.name then some tree
        else given? dialect table field.name (.mapping rest) := by
      by_cases hname : name = field.name <;> simp [given?, hkey, hname]
    rcases hstep with ⟨hfound, hrest⟩ | ⟨other, next, hfound, hnew, hnext, hrest⟩
    · have hname : name ≠ field.name := by
        rintro rfl
        simpa using List.find?_eq_none.1 hfound field hfield
      rw [hgiven, if_neg hname]
      exact ih hrest
    · have hother : other ∈ table := List.mem_of_find?_eq_some hfound
      have hotherName : other.name = name := by simpa using List.find?_some hfound
      obtain ⟨hseen, hfresh⟩ := ih hrest
      by_cases hname : name = field.name
      · subst hname
        rw [hgiven, if_pos rfl]
        have hsame : other = field := by
          have hfield' := find?_name h.names hfield
          rw [hfound] at hfield'
          exact Option.some.inj hfield'
        subst hsame
        refine ⟨fun hold => absurd hold hnew, fun _ => ⟨record, next, hnext, ?_⟩⟩
        exact hseen List.mem_cons_self
      · have hkept : field.write next = field.write record :=
          h.write_eq hfield hother (by rw [hotherName]; exact Ne.symm hname) hnext
        rw [hgiven, if_neg hname]
        refine ⟨fun hold => (hseen (List.mem_cons_of_mem _ hold)).trans hkept, fun hnot => ?_⟩
        refine (hfresh fun hmem => ?_).congr hkept
        rcases List.mem_cons.1 hmem with hsame | hold
        · exact hname hsame.symm
        · exact hnot hold

-- The names of what is left of the table are not seen again.
theorem settles_readItems (h : Apart table) (hfield : field ∈ table) {fields : List (Field ρ)}
    (hfields : fields.Sublist table) {items : List (Tree κ σ)} {whole : Bool}
    (hread : readItems dialect record fields items = some (whole, final)) :
    (field.name ∉ fields.map (·.name) → field.write final = field.write record) ∧
      (field ∈ fields →
        field.Settles dialect record final (given? dialect fields field.name (.list items))) := by
  induction fields generalizing items record with
  | nil =>
    cases items with
    | nil =>
      cases hread
      exact ⟨fun _ => rfl, fun hmem => absurd hmem List.not_mem_nil⟩
    | cons tree rest => contradiction
  | cons first fields ih =>
    have hfirst : first ∈ table := hfields.subset List.mem_cons_self
    have hrest : fields.Sublist table := (List.sublist_cons_self first fields).trans hfields
    have hnames : ((first :: fields).map (·.name)).Nodup := (hfields.map _).nodup h.names
    cases items with
    | nil =>
      cases hread
      exact ⟨fun _ => rfl, fun _ => rfl⟩
    | cons tree rest =>
      unfold readItems at hread
      split at hread
      · contradiction
      · next next hnext =>
        obtain ⟨hother, hlater⟩ := ih hrest hread
        have hkept : field.name ≠ first.name → field.write next = field.write record :=
          fun hne => h.write_eq hfield hfirst hne hnext
        constructor
        · intro hnot
          rw [List.map_cons, List.mem_cons, not_or] at hnot
          exact (hother hnot.2).trans (hkept hnot.1)
        · intro hmem
          rcases List.mem_cons.1 hmem with rfl | hmem
          · have hgiven : given? dialect (field :: fields) field.name (.list (tree :: rest)) =
                some tree := by
              simp [given?]
            rw [hgiven]
            exact ⟨record, next, hnext, hother (List.nodup_cons.1 hnames).1⟩
          · have hne : first.name ≠ field.name := by
              intro hsame
              exact (List.nodup_cons.1 hnames).1 (List.mem_map.2 ⟨field, hmem, hsame.symm⟩)
            have hgiven : given? dialect (first :: fields) field.name (.list (tree :: rest)) =
                given? dialect fields field.name (.list rest) := by
              simp [given?, hne]
            rw [hgiven]
            exact (hlater hmem).congr (hkept (Ne.symm hne))

theorem lookup_written_of_not_mem {fields : List (Field ρ)} {name : Text}
    (h : name ∉ fields.map (·.name)) (record : ρ) :
    (written fields record).lookup name = none := by
  rw [List.lookup_eq_none_iff]
  intro entry hentry
  obtain ⟨field, hfield, hwritten⟩ := List.mem_filterMap.1 hentry
  obtain ⟨json, -, rfl⟩ := Option.map_eq_some_iff.1 hwritten
  have hne : name ≠ field.name := by
    rintro rfl
    exact h (List.mem_map_of_mem hfield)
  simpa using hne

-- What is written under the name of a field is what the field writes.
theorem lookup_written {fields : List (Field ρ)} (hnames : (fields.map (·.name)).Nodup)
    (hfield : field ∈ fields) (record : ρ) :
    (written fields record).lookup field.name = field.write record := by
  induction fields with
  | nil => contradiction
  | cons first rest ih =>
    rw [List.map_cons, List.nodup_cons] at hnames
    rcases List.mem_cons.1 hfield with rfl | hmem
    · cases hwrite : field.write record with
      | none =>
        rw [written, List.filterMap_cons_none (by rw [hwrite, Option.map_none])]
        exact lookup_written_of_not_mem hnames.1 record
      | some json =>
        rw [written, List.filterMap_cons_some (by rw [hwrite, Option.map_some])]
        exact List.lookup_cons_self
    · have hne : (field.name == first.name) = false := by
        refine beq_false_of_ne fun hsame => hnames.1 ?_
        exact List.mem_map.2 ⟨field, hmem, hsame⟩
      cases hwrite : first.write record with
      | none =>
        rw [written, List.filterMap_cons_none (by rw [hwrite, Option.map_none])]
        exact ih hnames.2 hmem
      | some json =>
        rw [written, List.filterMap_cons_some (by rw [hwrite, Option.map_some])]
        simp only [List.lookup_cons, hne]
        exact ih hnames.2 hmem

theorem Settles.always {name : String} {form : Form α} {get : ρ → α} {set : α → ρ → ρ}
    (hget : ∀ value record, get (set value record) = value) {tree : Tree κ σ}
    (h : (Field.always name form get set).Settles dialect record final (some tree)) :
    ∃ value, form.read dialect tree = some value ∧
      (Field.always name form get set).write final = some (form.write value) := by
  obtain ⟨before, after, hread, hwrite⟩ := h
  obtain ⟨value, hvalue, rfl⟩ := Option.map_eq_some_iff.1 hread
  refine ⟨value, hvalue, hwrite.trans ?_⟩
  show some (form.write (get (set value before))) = some (form.write value)
  rw [hget]

end Field

namespace Form

variable {table : List (Field ρ)} {field : Field ρ} {sparse : Bool} {default : ρ}

theorem settles_recordWith (h : Field.Apart table) (hfield : field ∈ table)
    {dialect : Dialect κ σ} {tree : Tree κ σ} {record : ρ}
    (hread : (recordWith sparse table default).read dialect tree = some record) :
    field.Settles dialect default record (Field.given? dialect table field.name tree) := by
  cases tree with
  | leaf value =>
    obtain ⟨-, hrecord⟩ := Option.ite_none_right_eq_some.1 hread
    exact congrArg field.write (Option.some.inj hrecord).symm
  | mapping entries => exact (Field.settles_readEntries h hfield hread).2 List.not_mem_nil
  | list items =>
    simp only [recordWith] at hread
    split at hread
    · next whole final hitems =>
      obtain ⟨-, hfinal⟩ := Option.ite_none_right_eq_some.1 hread
      cases hfinal
      exact (Field.settles_readItems h hfield (List.Sublist.refl table) hitems).2 hfield
    · contradiction

-- Under the name of a field stands what it writes.
theorem at?_write_recordWith (h : Field.Apart table) (hfield : field ∈ table) (record : ρ) :
    Json.at? [field.name] ((recordWith sparse table default).write record) =
      field.write record := by
  show ((Field.written table record).lookup field.name).bind some = field.write record
  rw [Option.bind_fun_some, Field.lookup_written h.names hfield]

end Form

end Referencing
