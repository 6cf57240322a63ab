import Referencing.Proofs.Template.Scanner
import Referencing.Template.Segment

namespace Referencing.Template

open Text

-- Whether a name stands at the beginning of a run of text that follows `before`
-- and is followed by `after`.
def beginsField (before run after : Text) (name : Text) : Bool :=
  name.isPrefixOf run && isBoundary before.getLast? &&
    isBoundary (run.drop name.length ++ after).head?

-- The search for a field, told by what stands around a run of text and not by bytes.
def seekInRun (names : List Text) (before : Text) : (run after : Text) → Option Located
  | [], _ => none
  | c :: rest, after =>
    match names.find? (beginsField before (c :: rest) after) with
    | some name => some ⟨before, name, (c :: rest).drop name.length ++ after⟩
    | none => seekInRun names (before ++ [c]) rest after

def seek (names : List Text) (before : Text) : List Lexeme → Option Located
  | [] => none
  | lexeme :: rest =>
    let after := rest.flatMap Lexeme.spelling
    let here :=
      match lexeme with
      | .text run => seekInRun names before run after
      | _ => none
    here.or (seek names (before ++ lexeme.spelling) rest)

section Cutting

variable {before run after name : Text}

theorem Located.cut_eq (h : name <+: run) :
    Located.cut (before ++ run ++ after) (size before) name =
      ⟨before, name, run.drop name.length ++ after⟩ := by
  obtain ⟨rest, rfl⟩ := h
  have hbefore : slice 0 (size before) (before ++ (name ++ rest) ++ after) = before := by
    have hslice := slice_size [] before (name ++ rest ++ after)
    rwa [List.nil_append, size_nil, ← List.append_assoc] at hslice
  have hafter : slice (size before + size name) (size (before ++ (name ++ rest) ++ after))
      (before ++ (name ++ rest) ++ after) = rest ++ after := by
    have hslice := slice_size (before ++ name) (rest ++ after) []
    rw [List.append_nil, size_append before name] at hslice
    simpa only [List.append_assoc] using hslice
  rw [Located.cut, hbefore, hafter, List.drop_left]

theorem startsField_eq (before run after name : Text) :
    startsField (before ++ run ++ after) (size before) run name =
      beginsField before run after name := by
  cases hprefix : name.isPrefixOf run with
  | false => simp [startsField, beginsField, hprefix]
  | true => rw [startsField, beginsField, Located.cut_eq (List.isPrefixOf_iff_prefix.1 hprefix)]

theorem locateInRun_eq (names : List Text) (before run after : Text) :
    locateInRun names (before ++ run ++ after) (size before) run =
      seekInRun names before run after := by
  induction run generalizing before with
  | nil => rfl
  | cons c rest ih =>
    have hstarts : startsField (before ++ c :: rest ++ after) (size before) (c :: rest) =
        beginsField before (c :: rest) after := funext (startsField_eq before _ after)
    rw [locateInRun, seekInRun, hstarts]
    cases hname : names.find? (beginsField before (c :: rest) after) with
    | some name =>
      have hbegins := List.find?_some hname
      simp only [beginsField, Bool.and_eq_true, List.isPrefixOf_iff_prefix] at hbegins
      simp only [Located.cut_eq hbegins.1.1]
    | none =>
      have hrest := ih (before ++ [c])
      rwa [size_append, size_cons, size_nil, Nat.add_zero, List.append_assoc before [c],
        List.singleton_append] at hrest

theorem findSome?_tokensFrom (names : List Text) (before : Text) (lexemes : List Lexeme) :
    (tokensFrom (size before) lexemes).findSome?
        (locateInToken names (before ++ lexemes.flatMap Lexeme.spelling)) =
      seek names before lexemes := by
  induction lexemes generalizing before with
  | nil => rfl
  | cons lexeme rest ih =>
    have hrest := ih (before ++ lexeme.spelling)
    rw [size_append, List.append_assoc, ← List.flatMap_cons] at hrest
    cases lexeme with
    | text run =>
      have hhere : locateInToken names (before ++ (Lexeme.text run :: rest).flatMap Lexeme.spelling)
          ((Lexeme.text run).token (size before)) =
            seekInRun names before run (rest.flatMap Lexeme.spelling) := by
        rw [← locateInRun_eq, List.flatMap_cons, ← List.append_assoc]
        rfl
      rw [tokensFrom, List.findSome?_cons, hhere, hrest]
      simp only [seek]
      cases seekInRun names before run (rest.flatMap Lexeme.spelling) <;> simp
    | escaped | dependent | plural | unterminated => exact hrest

end Cutting

-- The bytes at which tokens and names are cut are those at which they stand.
theorem locate_eq (names : FieldSet) (segment : Text) :
    locate names segment = seek names.names [] (lexemesOf .segment segment) := by
  have hseek := findSome?_tokensFrom names.names [] (lexemesOf .segment segment)
  rwa [List.nil_append, flatMap_spelling_lexemesOf, size_nil, ← lex_eq] at hseek

section Found

variable {names : List Text} {before : Text} {found : Located}

-- A field is cut out of a run where its name stands: what was passed over is before
-- it, and what is left of the run is after it.
theorem append_seekInRun {run after : Text} (h : seekInRun names before run after = some found) :
    found.before ++ found.name ++ found.after = before ++ run ++ after := by
  induction run generalizing before with
  | nil => simp [seekInRun] at h
  | cons c rest ih =>
    simp only [seekInRun] at h
    split at h
    · next name hname =>
      obtain rfl := Option.some.inj h
      have hstarts := List.find?_some hname
      simp only [beginsField, Bool.and_eq_true, List.isPrefixOf_iff_prefix] at hstarts
      have hrun := List.prefix_iff_eq_append.1 hstarts.1.1
      rw [List.append_assoc, List.append_assoc before, ← List.append_assoc name, hrun]
    · simpa using ih h

theorem append_seek {lexemes : List Lexeme} (h : seek names before lexemes = some found) :
    found.before ++ found.name ++ found.after = before ++ lexemes.flatMap Lexeme.spelling := by
  induction lexemes generalizing before with
  | nil => simp [seek] at h
  | cons lexeme rest ih =>
    simp only [seek, Option.or_eq_some_iff] at h
    rcases h with h | ⟨-, h⟩
    · cases lexeme with
      | text run =>
        rw [append_seekInRun h, List.flatMap_cons, Lexeme.spelling, List.append_assoc]
      | escaped | dependent | plural | unterminated => simp at h
    · rw [ih h, List.flatMap_cons, List.append_assoc]

theorem name_mem_of_seekInRun {run after : Text}
    (h : seekInRun names before run after = some found) : found.name ∈ names := by
  induction run generalizing before with
  | nil => simp [seekInRun] at h
  | cons c rest ih =>
    simp only [seekInRun] at h
    split at h
    · next name hname =>
      obtain rfl := Option.some.inj h
      exact List.mem_of_find?_eq_some hname
    · exact ih h

theorem name_mem_of_seek {lexemes : List Lexeme} (h : seek names before lexemes = some found) :
    found.name ∈ names := by
  induction lexemes generalizing before with
  | nil => simp [seek] at h
  | cons lexeme rest ih =>
    simp only [seek, Option.or_eq_some_iff] at h
    rcases h with h | ⟨-, h⟩
    · cases lexeme with
      | text run => exact name_mem_of_seekInRun h
      | escaped | dependent | plural | unterminated => simp at h
    · exact ih h

end Found

theorem name_mem_of_locate {names : FieldSet} {segment : Text} {found : Located}
    (h : locate names segment = some found) : found.name ∈ names.names := by
  rw [locate_eq] at h
  exact name_mem_of_seek h

theorem append_locate {names : FieldSet} {segment : Text} {found : Located}
    (h : locate names segment = some found) :
    found.before ++ found.name ++ found.after = segment := by
  rw [locate_eq] at h
  rw [append_seek h, flatMap_spelling_lexemesOf, List.nil_append]

end Referencing.Template
