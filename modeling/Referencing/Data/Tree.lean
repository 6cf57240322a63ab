namespace Referencing

-- Structured data as notations write it: leaves, lists, and mappings that keep
-- the order and the repetition of their keys.
inductive Tree (κ σ : Type)
  | leaf (value : σ)
  | list (items : List (Tree κ σ))
  | mapping (entries : List (κ × Tree κ σ))

instance {κ σ : Type} [Inhabited σ] : Inhabited (Tree κ σ) := ⟨.leaf default⟩

namespace Tree

-- What a bracketed notation consists of.
inductive Sign (σ : Type)
  | beginList
  | endList
  | beginMapping
  | endMapping
  | comma
  | colon
  | leaf (value : σ)

-- A list or mapping whose end has not been read; its parts stand in reverse.
inductive Frame (κ σ : Type)
  | list (items : List (Tree κ σ))
  | mapping (entries : List (κ × Tree κ σ)) (key : Option κ)

-- What may come next. `mayEnd` tells whether the innermost frame is still empty
-- and may be closed at once.
inductive Phase (κ σ : Type)
  | value (mayEnd : Bool)
  | key (mayEnd : Bool)
  | colon
  | separator
  | finished (tree : Tree κ σ)

structure Building (κ σ : Type) where
  frames : List (Frame κ σ)
  phase : Phase κ σ

namespace Building

variable {κ σ : Type}

def start : Building κ σ := ⟨[], .value false⟩

-- Hands a whole tree to the frame that waits for it.
def deliver (tree : Tree κ σ) : List (Frame κ σ) → Option (Building κ σ)
  | [] => some ⟨[], .finished tree⟩
  | .list items :: frames => some ⟨.list (tree :: items) :: frames, .separator⟩
  | .mapping entries (some key) :: frames =>
    some ⟨.mapping ((key, tree) :: entries) none :: frames, .separator⟩
  | .mapping _ none :: _ => none

private def close : Sign σ → List (Frame κ σ) → Option (Building κ σ)
  | .endList, .list items :: frames => deliver (.list items.reverse) frames
  | .endMapping, .mapping entries _ :: frames => deliver (.mapping entries.reverse) frames
  | _, _ => none

private def begin (building : Building κ σ) : Sign σ → Option (Building κ σ)
  | .leaf value => deliver (.leaf value) building.frames
  | .beginList => some ⟨.list [] :: building.frames, .value true⟩
  | .beginMapping => some ⟨.mapping [] none :: building.frames, .key true⟩
  | _ => none

-- One step of reading. `asKey` tells which leaves can be keys.
def step (asKey : σ → Option κ) (building : Building κ σ) (sign : Sign σ) :
    Option (Building κ σ) :=
  match building.phase, building.frames with
  | .value mayEnd, frames =>
    match begin building sign with
    | some next => some next
    | none => if mayEnd then close sign frames else none
  | .key mayEnd, .mapping entries none :: frames =>
    match sign with
    | .leaf value => (asKey value).map fun key => ⟨.mapping entries (some key) :: frames, .colon⟩
    | _ => if mayEnd then close sign building.frames else none
  | .colon, frames =>
    match sign with
    | .colon => some ⟨frames, .value false⟩
    | _ => none
  | .separator, frames =>
    match sign, frames with
    | .comma, .list _ :: _ => some ⟨frames, .value false⟩
    | .comma, .mapping _ _ :: _ => some ⟨frames, .key false⟩
    | _, _ => close sign frames
  | _, _ => none

end Building

-- The tree that a sequence of signs spells out, if it is exactly one.
def ofSigns? {κ σ : Type} (asKey : σ → Option κ) (signs : List (Sign σ)) : Option (Tree κ σ) := do
  let building ← signs.foldlM (Building.step asKey) Building.start
  match building.phase with
  | .finished tree => some tree
  | _ => none

end Tree

end Referencing
