import Mathlib.Data.List.Nodup
import Referencing.Data.Field

namespace Referencing

variable {α ρ : Type}

-- What is written for a value is read back as it, and is not what stands for no value.
structure Form.Restores (form : Form α) (value : α) : Prop where
  read : form.read .json (form.write value) = some value
  present : form.write value ≠ Json.null

namespace Form

theorem restores_text (value : Text) : Form.text.Restores value where
  read := rfl
  present := by simp [Form.text, Json.text, Json.null]

theorem restores_flag (value : Bool) : Form.flag.Restores value where
  read := rfl
  present := by simp [Form.flag, Json.bool, Json.null]

-- Counts have 64 bits.
theorem restores_natural {value : Nat} (h : value < Text.largeBound) :
    Form.natural.Restores value where
  read := by
    show (if value < Text.largeBound then some value else none) = some value
    rw [if_pos h]
  present := by simp [Form.natural, Json.natural, Json.null]

-- A value is found again under its name if no name is given twice.
theorem restores_choice [DecidableEq α] {names : List (String × α)} {value : α}
    (hvalue : value ∈ names.map (·.2)) (hnames : (names.map (·.1.toList)).Nodup) :
    (Form.choice names).Restores value where
  read := by
    obtain ⟨entry, hentry, rfl⟩ := List.mem_map.1 hvalue
    cases hfound : names.find? (·.2 = entry.2) with
    | none =>
      have hnone := List.find?_eq_none.1 hfound entry hentry
      simp at hnone
    | some found =>
      have hsame : found.2 = entry.2 := by simpa using List.find?_some hfound
      have hmem := List.mem_of_find?_eq_some hfound
      show ((names.find? (·.1.toList =
        ((names.find? (·.2 = entry.2)).map (·.1.toList)).getD [])).map (·.2)) = some entry.2
      rw [hfound, Option.map_some, Option.getD_some]
      cases hagain : names.find? (·.1.toList = found.1.toList) with
      | none =>
        have hnone := List.find?_eq_none.1 hagain found hmem
        simp at hnone
      | some again =>
        have hname : again.1.toList = found.1.toList := by simpa using List.find?_some hagain
        have heq := List.inj_on_of_nodup_map hnames (List.mem_of_find?_eq_some hagain) hmem hname
        rw [heq, Option.map_some, hsame]
  present := by simp [Form.choice, Json.text, Json.null]

-- No value is written as null, and no value that is given is.
theorem read_option {form : Form α} {value : Option α} (h : ∀ given ∈ value, form.Restores given) :
    form.option.read .json (form.option.write value) = some value := by
  cases value with
  | none => rfl
  | some given =>
    obtain ⟨hread, hpresent⟩ := h given rfl
    show form.option.read .json (form.write given) = some (some given)
    cases hwritten : form.write given with
    | leaf leaf =>
      rw [hwritten] at hread hpresent
      have habsent : Dialect.json.isAbsent leaf = false := by
        refine decide_eq_false fun hnull => hpresent ?_
        rw [hnull]
        rfl
      show (if Dialect.json.isAbsent leaf then _ else _) = _
      rw [habsent, if_neg Bool.false_ne_true, hread, Option.map_some]
    | list items =>
      rw [hwritten] at hread
      show (form.read .json (.list items)).map some = _
      rw [hread, Option.map_some]
    | mapping entries =>
      rw [hwritten] at hread
      show (form.read .json (.mapping entries)).map some = _
      rw [hread, Option.map_some]

theorem restores_list {form : Form α} {values : List α}
    (h : ∀ value ∈ values, form.Restores value) : form.list.Restores values where
  read := by
    show (values.map form.write).mapM (form.read .json) = some values
    induction values with
    | nil => rfl
    | cons value rest ih =>
      rw [List.forall_mem_cons] at h
      rw [List.map_cons, List.mapM_cons, h.1.read, ih h.2]
      rfl
  present := by simp [Form.list, Json.array, Json.null]

-- New keys come after those that are there, so a dictionary is filled in its own order.
theorem readEntries_written {form : Form α} {dict : Dict α} {remaining : List (Text × α)}
    (hnodup : ((dict.entries ++ remaining).map (·.1)).Nodup)
    (h : ∀ entry ∈ remaining, form.Restores entry.2) :
    (readEntries form .json dict (remaining.map fun (key, value) => (key, form.write value))).map
      Dict.entries = some (dict.entries ++ remaining) := by
  induction remaining generalizing dict with
  | nil => simp [readEntries]
  | cons entry rest ih =>
    obtain ⟨key, value⟩ := entry
    rw [List.forall_mem_cons] at h
    have hkey : key ∉ dict.keys := by
      intro hmem
      rw [List.map_append, List.map_cons] at hnodup
      exact (List.nodup_append.1 hnodup).2.2 key hmem key List.mem_cons_self rfl
    have hentries := Dict.entries_insert_of_not_mem value hkey
    have hinsert : ((dict.insert key value).entries ++ rest).map (·.1) =
        (dict.entries ++ (key, value) :: rest).map (·.1) := by
      rw [hentries, List.append_assoc, List.singleton_append]
    have hrest := @ih (dict.insert key value) (by rwa [hinsert]) h.2
    show ((form.read .json (form.write value)).bind fun value =>
      readEntries form .json (dict.insert key value) _).map Dict.entries = _
    rw [h.1.read, Option.bind_some, hrest, hentries, List.append_assoc, List.singleton_append]

theorem restores_dict {form : Form α} {dict : Dict α}
    (h : ∀ entry ∈ dict.entries, form.Restores entry.2) : form.dict.Restores dict where
  read := by
    have hentries := @readEntries_written _ form Dict.empty dict.entries dict.distinct h
    obtain ⟨found, hfound, hsame⟩ := Option.map_eq_some_iff.1 hentries
    show readEntries form .json Dict.empty
      (dict.entries.map fun (key, value) => (key, form.write value)) = some dict
    rw [hfound, Dict.ext hsame]
  present := by simp [Form.dict, Json.object, Json.null]

end Form

namespace Field

-- Reading what a field writes for a value makes a record into the next one, and
-- a field that is left out has nothing to change.
structure Copies (field : Field ρ) (target record next : ρ) : Prop where
  written : ∀ tree ∈ field.write target, field.read .json tree record = some next
  omitted : field.write target = none → next = record

theorem Copies.always {name : String} {form : Form α} {get : ρ → α} {set : α → ρ → ρ} {target : ρ}
    (record : ρ) (h : form.Restores (get target)) :
    (Field.always name form get set).Copies target record (set (get target) record) where
  written := by
    rintro tree ⟨⟩
    show (form.read .json (form.write (get target))).map _ = _
    rw [h.read, Option.map_some]
  omitted := fun hnone => absurd hnone (Option.some_ne_none _)

-- What is left out is the value that the record has before.
theorem Copies.sparing {name : String} {form : Form α} {isEmpty : α → Bool} {get : ρ → α}
    {set : α → ρ → ρ} {absent : α} {target record : ρ}
    (hread : form.read .json (form.write (get target)) = some (get target))
    (hempty : ∀ value, isEmpty value → value = absent) (habsent : set absent record = record) :
    (Field.sparing name form isEmpty get set).Copies target record (set (get target) record) where
  written := by
    intro tree htree
    obtain ⟨-, hsame⟩ := Option.ite_none_left_eq_some.1 htree
    show (form.read .json tree).map _ = _
    rw [← Option.some.inj hsame, hread, Option.map_some]
  omitted := by
    intro hnone
    have hvalue : isEmpty (get target) := by
      by_contra hfull
      exact Option.some_ne_none _ ((if_neg hfull).symm.trans hnone)
    rw [hempty _ hvalue, habsent]

theorem Copies.optional {name : String} {form : Form α} {get : ρ → Option α}
    {set : Option α → ρ → ρ} {target record : ρ} (h : ∀ given ∈ get target, form.Restores given)
    (habsent : set none record = record) :
    (Field.optional name form get set).Copies target record (set (get target) record) :=
  .sparing (Form.read_option h) (fun _ => Option.isNone_iff_eq_none.1) habsent

-- Copying one field of a value after the other makes a record into the value.
inductive Completes (target : ρ) : List (Field ρ) → ρ → Prop
  | done : Completes target [] target
  | step {field : Field ρ} {fields : List (Field ρ)} {record next : ρ}
      (hfield : field.Copies target record next) (hrest : Completes target fields next) :
      Completes target (field :: fields) record

-- The mapping written for a value, of some of the fields of the table.
def written (fields : List (Field ρ)) (target : ρ) : List (Text × Json) :=
  fields.filterMap fun field => (field.write target).map fun tree => (field.name, tree)

theorem find?_name {table : List (Field ρ)} (hnames : (table.map (·.name)).Nodup)
    {field : Field ρ} (hfield : field ∈ table) :
    table.find? (·.name = field.name) = some field := by
  cases hfound : table.find? (·.name = field.name) with
  | none => simpa using List.find?_eq_none.1 hfound field hfield
  | some found =>
    have hname : found.name = field.name := by simpa using List.find?_some hfound
    have hmem := List.mem_of_find?_eq_some hfound
    rw [List.inj_on_of_nodup_map hnames hmem hfield hname]

-- Of a table without repeated names, what is left of the fields is read in order:
-- none of them has been seen.
theorem readEntries_of_completes {table : List (Field ρ)} (hnames : (table.map (·.name)).Nodup)
    {target : ρ} {fields : List (Field ρ)} {record : ρ} {seen : List Text}
    (hcomplete : Completes target fields record) (hfields : fields.Sublist table)
    (hseen : ∀ field ∈ fields, field.name ∉ seen) :
    readEntries table .json seen record (written fields target) = some target := by
  induction hcomplete generalizing seen with
  | done => rfl
  | @step field fields record next hfield _ ih =>
    have hmem : field ∈ table := hfields.subset List.mem_cons_self
    have hrest : fields.Sublist table := (List.sublist_cons_self field fields).trans hfields
    rw [List.forall_mem_cons] at hseen
    cases hwrite : field.write target with
    | none =>
      have hskip : written (field :: fields) target = written fields target := by
        rw [written, List.filterMap_cons_none (by rw [hwrite, Option.map_none])]
        rfl
      rw [hskip, ← hfield.omitted hwrite]
      exact ih hrest hseen.2
    | some tree =>
      have hentry : written (field :: fields) target =
          (field.name, tree) :: written fields target := by
        rw [written, List.filterMap_cons_some (by rw [hwrite, Option.map_some])]
        rfl
      have hdistinct : ((field :: fields).map (·.name)).Nodup := (hfields.map _).nodup hnames
      have hlater : ∀ later ∈ fields, later.name ∉ field.name :: seen := by
        intro later hlater hname
        rcases List.mem_cons.1 hname with hsame | hold
        · exact (List.nodup_cons.1 hdistinct).1 (List.mem_map.2 ⟨later, hlater, hsame⟩)
        · exact hseen.2 later hlater hold
      rw [hentry, readEntries_cons rfl (find?_name hnames hmem) hseen.1
        (hfield.written tree hwrite)]
      exact ih hrest hlater

end Field

namespace Form

theorem restores_recordWith {sparse : Bool} {fields : List (Field ρ)} {default target : ρ}
    (hnames : (fields.map (·.name)).Nodup) (h : Field.Completes target fields default) :
    (recordWith sparse fields default).Restores target where
  read := Field.readEntries_of_completes hnames h (List.Sublist.refl fields) (by simp)
  present := by simp [recordWith, Json.object, Json.null]

end Form

end Referencing
