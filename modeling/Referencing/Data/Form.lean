import Referencing.Data.Dialect
import Referencing.Data.Dict

namespace Referencing

-- How values of a type are written in JSON, and read from any notation.
structure Form (α : Type) where
  read : {κ σ : Type} → Dialect κ σ → Tree κ σ → Option α
  write : α → Json

namespace Form

variable {α : Type}

def text : Form Text where
  read dialect
    | .leaf value => dialect.text? value
    | _ => none
  write := Json.text

def flag : Form Bool where
  read dialect
    | .leaf value => dialect.flag? value
    | _ => none
  write := Json.bool

def natural : Form Nat where
  read dialect
    | .leaf value => dialect.natural? value
    | _ => none
  write := Json.natural

def valueNamed (names : List (String × α)) (name : Text) : Option α :=
  (names.find? (·.1.toList = name)).map (·.2)

-- A value among a few that have names.
def choice [DecidableEq α] (names : List (String × α)) : Form α where
  read dialect
    | .leaf value => (dialect.text? value).bind (valueNamed names)
    | .mapping [(key, .leaf value)] =>
      if dialect.boxedChoice && dialect.isAbsent value then
        (dialect.key? key).bind (valueNamed names)
      else none
    | _ => none
  write value := Json.text (((names.find? (·.2 = value)).map (·.1.toList)).getD [])

def option (form : Form α) : Form (Option α) where
  read dialect
    | .leaf value =>
      if dialect.isAbsent value then some none else (form.read dialect (.leaf value)).map some
    | tree => (form.read dialect tree).map some
  write
    | some value => form.write value
    | none => Json.null

def list (form : Form α) : Form (List α) where
  read dialect
    | .list items => items.mapM (form.read dialect)
    | .leaf value => if dialect.isVoid value then some [] else none
    | .mapping _ => none
  write values := Json.array (values.map form.write)

def readEntries {κ σ : Type} (form : Form α) (dialect : Dialect κ σ) :
    Dict α → List (κ × Tree κ σ) → Option (Dict α)
  | dict, [] => some dict
  | dict, (key, tree) :: rest => do
    let key ← dialect.key? key
    let value ← form.read dialect tree
    readEntries form dialect (dict.insert key value) rest

-- A key that comes again replaces its value.
def dict (form : Form α) : Form (Dict α) where
  read dialect
    | .mapping entries => readEntries form dialect Dict.empty entries
    | .leaf value => if dialect.isVoid value then some Dict.empty else none
    | .list _ => none
  write values := Json.object (values.entries.map fun (key, value) => (key, form.write value))

end Form

end Referencing
