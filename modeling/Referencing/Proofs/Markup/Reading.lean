import Mathlib.Data.List.Basic
import Referencing.Proofs.Markup.Joins

namespace Referencing.Markup

open Text

variable {α : Type}

-- How a reader goes through a text: what the text begins with, and how many of the
-- characters after the first belong to it.
abbrev Reader (α : Type) := Char → Text → α × Nat

def Reader.read (reader : Reader α) : Text → List α
  | [] => []
  | c :: rest => (reader c rest).1 :: reader.read (rest.drop (reader c rest).2)
termination_by text => text.length
decreasing_by
  simp only [List.length_drop, List.length_cons]
  omega

-- Looks a text up among the spellings that have a meaning, and leaves all else to
-- another reader.
def Reader.ofTable (table : List (Text × α)) (otherwise : Reader α) : Reader α :=
  fun c rest =>
    match table.find? (·.1.isPrefixOf (c :: rest)) with
    | some (spelling, meaning) => (meaning, spelling.length - 1)
    | none => otherwise c rest

-- Whatever follows, a reader finds at the beginning of what a medium writes for a
-- piece all of it and nothing more, and knows what it stands for.
def Reader.Recognizes (reader : Reader α) (medium : Medium) (meaning : Piece → α) : Prop :=
  ∀ piece rest, ∃ c tail, medium.write piece = c :: tail ∧
    reader c (tail ++ rest) = (meaning piece, tail.length)

section Reader

variable {reader : Reader α} {medium : Medium} {meaning : Piece → α}

theorem Reader.read_nil (reader : Reader α) : reader.read [] = [] := by
  rw [read]

theorem Reader.Recognizes.read_write_append (h : reader.Recognizes medium meaning)
    (piece : Piece) (rest : Text) :
    reader.read (medium.write piece ++ rest) = meaning piece :: reader.read rest := by
  obtain ⟨c, tail, hwrite, hreader⟩ := h piece rest
  rw [hwrite, List.cons_append, Reader.read, hreader, List.drop_left]

-- So a text is read back piece by piece.
theorem Reader.Recognizes.read_convert (h : reader.Recognizes medium meaning) (text : Text) :
    reader.read (medium.convert text) = (pieces text).map meaning := by
  rw [Medium.convert]
  induction pieces text with
  | nil => exact reader.read_nil
  | cons piece rest ih => rw [List.flatMap_cons, h.read_write_append, ih, List.map_cons]

-- A character with which no spelling of a table begins is left to the other reader.
theorem Reader.ofTable_of_not_mem {table : List (Text × α)} {otherwise : Reader α}
    {heads : List Char} {c : Char} (rest : Text)
    (hheads : ∀ entry ∈ table, entry.1.head? ∈ heads.map some) (hc : c ∉ heads) :
    Reader.ofTable table otherwise c rest = otherwise c rest := by
  have hnone : table.find? (·.1.isPrefixOf (c :: rest)) = none := by
    rw [List.find?_eq_none]
    intro entry hentry hbegins
    obtain ⟨first, hfirst, hhead⟩ := List.mem_map.1 (hheads entry hentry)
    obtain ⟨others, hothers⟩ := List.head?_eq_some_iff.1 hhead.symm
    rw [hothers, List.isPrefixOf_iff_prefix, List.cons_prefix_cons] at hbegins
    exact hc (hbegins.1 ▸ hfirst)
  simp only [ofTable, hnone]

end Reader

-- A character in the export of a text is in what was written for one of its pieces.
theorem exists_piece_of_convert {medium : Medium} {text before after : Text} {c : Char}
    (h : medium.convert text = before ++ c :: after) :
    ∃ piece ∈ pieces text, ∃ stem tail, medium.write piece = stem ++ c :: tail ∧
      stem <:+ before ∧ tail <+: after := by
  rw [Medium.convert] at h
  generalize pieces text = pieces at h ⊢
  induction pieces generalizing before with
  | nil => simp at h
  | cons piece rest ih =>
    rw [List.flatMap_cons] at h
    rcases List.append_eq_append_iff.1 h with ⟨between, rfl, hrest⟩ | ⟨tail, hwrite, hafter⟩
    · obtain ⟨found, hfound, stem, tail, hwrite, hstem, htail⟩ := ih hrest
      exact ⟨found, List.mem_cons_of_mem _ hfound, stem, tail, hwrite,
        List.suffix_append_of_suffix hstem, htail⟩
    · cases tail with
      | nil =>
        obtain ⟨found, hfound, stem, tail, hwrite', hstem, htail⟩ := @ih [] hafter.symm
        refine ⟨found, List.mem_cons_of_mem _ hfound, stem, tail, hwrite', ?_, htail⟩
        rw [List.suffix_nil.1 hstem]
        exact List.nil_suffix
      | cons first tail =>
        rw [List.cons_append, List.cons.injEq] at hafter
        obtain ⟨rfl, hafter⟩ := hafter
        exact ⟨piece, List.mem_cons_self, before, tail, hwrite, List.suffix_refl _,
          ⟨_, hafter.symm⟩⟩

end Referencing.Markup
