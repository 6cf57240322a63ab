import Referencing.Proofs.Markup.WellMarked

namespace Referencing.Markup

open Text

-- Every marker that opens is closed, the last opened one first.
inductive Nested : List Marker → Prop
  | nil : Nested []
  | wrap (tag : Tag) {inside rest : List Marker} (hinside : Nested inside) (hrest : Nested rest) :
      Nested (⟨tag, false⟩ :: inside ++ ⟨tag, true⟩ :: rest)

-- Whether markers close what is open, and nothing else that they do not open.
def closes : List Tag → List Marker → Bool
  | opened, [] => opened.isEmpty
  | opened, ⟨tag, false⟩ :: rest => closes (tag :: opened) rest
  | [], ⟨_, true⟩ :: _ => false
  | last :: opened, ⟨tag, true⟩ :: rest => last = tag && closes opened rest

variable {before inside after : List Marker}

theorem Nested.closes_append (h : Nested inside) (opened : List Tag) (rest : List Marker) :
    closes opened (inside ++ rest) = closes opened rest := by
  induction h generalizing opened rest with
  | nil => rfl
  | wrap tag _ _ ihinside ihrest =>
    simp only [List.cons_append, List.append_assoc, closes, ihinside, ihrest, decide_true,
      Bool.true_and]

-- What has to be there when markers close all that is open.
def Closing : List Tag → List Marker → Prop
  | [], markers => Nested markers
  | last :: opened, markers => ∃ inside rest, Nested inside ∧ closes opened rest ∧
      markers = inside ++ ⟨last, true⟩ :: rest

theorem closing_of_closes {opened : List Tag} {markers : List Marker}
    (h : closes opened markers) : Closing opened markers := by
  induction hlength : markers.length using Nat.strongRecOn generalizing opened markers with
  | ind length ih =>
    cases markers with
    | nil =>
      cases opened with
      | nil => exact .nil
      | cons last opened => simp [closes] at h
    | cons first rest =>
      obtain ⟨tag, closing⟩ := first
      rw [List.length_cons] at hlength
      cases closing with
      | false =>
        obtain ⟨inside, after, hinside, hafter, rfl⟩ :=
          ih rest.length (by omega) (by simpa [closes] using h) rfl
        have hshorter : after.length < length := by
          rw [List.length_append, List.length_cons] at hlength
          omega
        have hclosing := ih after.length hshorter hafter rfl
        cases opened with
        | nil => exact hinside.wrap tag hclosing
        | cons last opened =>
          obtain ⟨inner, remaining, hinner, hremaining, rfl⟩ := hclosing
          exact ⟨_, remaining, hinside.wrap tag hinner, hremaining, by simp⟩
      | true =>
        cases opened with
        | nil => simp [closes] at h
        | cons last opened =>
          simp only [closes, Bool.and_eq_true, decide_eq_true_eq] at h
          obtain ⟨rfl, hrest⟩ := h
          exact ⟨[], rest, .nil, hrest, rfl⟩

theorem nested_iff_closes {markers : List Marker} : Nested markers ↔ closes [] markers := by
  refine ⟨fun h => ?_, closing_of_closes⟩
  have hend := h.closes_append [] []
  rw [List.append_nil] at hend
  rw [hend]
  rfl

instance (markers : List Marker) : Decidable (Nested markers) :=
  decidable_of_iff _ nested_iff_closes.symm

-- What stands between is neither seen nor touched by what surrounds it.
theorem Nested.closes_insert (h : Nested inside) (opened : List Tag) (before after : List Marker) :
    closes opened (before ++ inside ++ after) = closes opened (before ++ after) := by
  induction before generalizing opened with
  | nil => exact h.closes_append opened after
  | cons first rest ih =>
    obtain ⟨tag, closing⟩ := first
    cases closing with
    | false => exact ih (tag :: opened)
    | true =>
      cases opened with
      | nil => rfl
      | cons last opened => exact congrArg (decide (last = tag) && ·) (ih opened)

theorem Nested.insert_iff (h : Nested inside) :
    Nested (before ++ inside ++ after) ↔ Nested (before ++ after) := by
  rw [nested_iff_closes, nested_iff_closes, h.closes_insert]

theorem Nested.append (hbefore : Nested before) (hafter : Nested after) :
    Nested (before ++ after) := by
  have h := (@Nested.insert_iff before after [] hafter).2
  simpa only [List.append_nil] using h (by rwa [List.append_nil])

theorem nested_markers_insert_iff {before inside : Text} (hbefore : WellMarked before)
    (hinside : WellMarked inside) (h : Nested (markers inside)) (after : Text) :
    Nested (markers (before ++ inside ++ after)) ↔ Nested (markers (before ++ after)) := by
  rw [(hbefore.append hinside).markers_append, hbefore.markers_append, hbefore.markers_append,
    h.insert_iff]

theorem nested_cons_iff {first : Marker} {rest : List Marker} :
    Nested (first :: rest) ↔ ∃ tag inside after, Nested inside ∧ Nested after ∧
      first = ⟨tag, false⟩ ∧ rest = inside ++ ⟨tag, true⟩ :: after := by
  constructor
  · intro h
    cases h with
    | wrap tag hinside hrest => exact ⟨tag, _, _, hinside, hrest, rfl, rfl⟩
  · rintro ⟨tag, inside, after, hinside, hafter, rfl, rfl⟩
    exact hinside.wrap tag hafter

-- Text in which a medium closes each of its tags, the last opened one first.
inductive Enclosed (medium : Medium) : Text → Prop
  | nil : Enclosed medium []
  | dash {rest : Text} (hrest : Enclosed medium rest) : Enclosed medium (medium.ndash ++ rest)
  | char (c : Char) {rest : Text} (hrest : Enclosed medium rest) :
      Enclosed medium (medium.escape c ++ rest)
  | wrap (tag : Tag) {inside rest : Text} (hinside : Enclosed medium inside)
      (hrest : Enclosed medium rest) :
      Enclosed medium (medium.opening tag ++ inside ++ medium.closing tag ++ rest)

theorem eq_tagged_of_marker? {piece : Piece} {marker : Marker} (h : piece.marker? = some marker) :
    piece = .tagged marker := by
  cases piece with
  | dash => simp [Piece.marker?] at h
  | tagged found => rw [Piece.marker?, Option.some.injEq] at h; rw [h]
  | char c => simp [Piece.marker?] at h

theorem enclosed_write (medium : Medium) (pieces : List Piece)
    (h : Nested (pieces.filterMap Piece.marker?)) :
    Enclosed medium (pieces.flatMap medium.write) := by
  induction hlength : pieces.length using Nat.strongRecOn generalizing pieces with
  | ind length ih =>
    cases pieces with
    | nil => exact .nil
    | cons piece rest =>
      rw [List.length_cons] at hlength
      cases piece with
      | dash => exact (ih rest.length (by omega) rest h rfl).dash
      | char c => exact (ih rest.length (by omega) rest h rfl).char c
      | tagged marker =>
        obtain ⟨tag, inside, after, hinside, hafter, rfl, hrest⟩ := nested_cons_iff.1 h
        obtain ⟨enclosed, others, rfl, rfl, hothers⟩ := List.filterMap_eq_append_iff.1 hrest
        obtain ⟨unmarked, closing, remaining, rfl, hunmarked, hclosing, rfl⟩ :=
          List.filterMap_eq_cons_iff.1 hothers
        rw [eq_tagged_of_marker? hclosing]
        have hmarkers : (enclosed ++ unmarked).filterMap Piece.marker? =
            enclosed.filterMap Piece.marker? := by
          rw [List.filterMap_append, List.filterMap_eq_nil_iff.2 hunmarked, List.append_nil]
        simp only [List.length_append, List.length_cons] at hlength
        have hbetween := ih (enclosed ++ unmarked).length
          (by rw [List.length_append]; omega) _ (hmarkers ▸ hinside) rfl
        have hremaining := ih remaining.length (by omega) remaining hafter rfl
        simpa [Medium.write] using Enclosed.wrap tag hbetween hremaining

-- An export opens and closes the same tags if the markers do.
theorem enclosed_convert (medium : Medium) {text : Text} (h : Nested (markers text)) :
    Enclosed medium (medium.convert text) :=
  enclosed_write medium (pieces text) h

end Referencing.Markup
