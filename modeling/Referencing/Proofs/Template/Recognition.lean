import Mathlib.Data.List.Sort
import Referencing.Proofs.Template.Locating
import Referencing.Template.Compile

namespace Referencing.Template

open Text

-- A name stands between two texts. Neither a letter nor a quotation touches it.
structure Located.IsApart (found : Located) : Prop where
  before : ∀ c ∈ found.before.getLast?, isAlphabetic c = false ∧ c ≠ tick
  after : ∀ c ∈ found.after.head?, isAlphabetic c = false ∧ c ≠ tick

-- A name stands in a run of plain text that is between two other texts.
structure StandsIn (names : FieldSet) (before run after : Text) (found : Located) : Prop where
  known : found.name ∈ names.names
  inside : ∃ left right, run = left ++ found.name ++ right ∧ found.before = before ++ left ∧
    found.after = right ++ after
  apart : found.IsApart

-- The same where what was passed over is told by lexemes.
def StandsInLexemes (names : FieldSet) (before : Text) (lexemes : List Lexeme) (found : Located) :
    Prop :=
  ∃ earlier run later, lexemes = earlier ++ .text run :: later ∧
    StandsIn names (before ++ earlier.flatMap Lexeme.spelling) run (later.flatMap Lexeme.spelling)
      found

-- The whole name stands in one token, and that token is plain text.
def Stands (names : FieldSet) (segment : Text) (found : Located) : Prop :=
  ∃ token ∈ lex .segment segment, ∃ before run after, token.kind = .text run ∧
    segment = before ++ run ++ after ∧ size before = token.start ∧
      StandsIn names before run after found

-- It begins earlier, or at the same place with a name that is as long.
structure Located.ComesFirst (found other : Located) : Prop where
  leftmost : size found.before ≤ size other.before
  longest : size found.before = size other.before → size other.name ≤ size found.name

-- What a search finds if it is for the first of some places.
def Finds (stands : Located → Prop) : Option Located → Prop
  | none => ∀ found, ¬stands found
  | some found => stands found ∧ ∀ other, stands other → found.ComesFirst other

section Search

variable {stands others : Located → Prop} {here there : Option Located}

theorem Located.ComesFirst.of_lt {found other : Located}
    (h : size found.before < size other.before) : found.ComesFirst other where
  leftmost := Nat.le_of_lt h
  longest := fun heq => absurd heq (Nat.ne_of_lt h)

-- A search is continued where those places are that all come later.
theorem Finds.or (hhere : Finds stands here) (hthere : Finds others there)
    (h : ∀ found other, stands found → others other → size found.before < size other.before) :
    Finds (fun found => stands found ∨ others found) (here.or there) := by
  cases here with
  | some found =>
    obtain ⟨hfound, hfirst⟩ := hhere
    refine ⟨.inl hfound, ?_⟩
    rintro other (hother | hother)
    · exact hfirst other hother
    · exact .of_lt (h found other hfound hother)
  | none =>
    cases there with
    | none =>
      rintro found (hfound | hfound)
      · exact hhere found hfound
      · exact hthere found hfound
    | some found =>
      obtain ⟨hfound, hfirst⟩ := hthere
      refine ⟨.inr hfound, ?_⟩
      rintro other (hother | hother)
      · exact absurd hother (hhere other)
      · exact hfirst other hother

theorem Finds.eq_none_iff (h : Finds stands here) : here = none ↔ ∀ found, ¬stands found := by
  constructor
  · rintro rfl
    exact h
  · intro hnone
    cases here with
    | none => rfl
    | some found => exact absurd h.1 (hnone found)

theorem Finds.eq_some_iff {found : Located} (h : Finds stands here)
    (hinjective : ∀ left right, stands left → stands right →
      size left.before = size right.before → size left.name = size right.name → left = right) :
    here = some found ↔ stands found ∧ ∀ other, stands other → found.ComesFirst other := by
  constructor
  · rintro rfl
    exact h
  · rintro ⟨hfound, hfirst⟩
    cases here with
    | none => exact absurd hfound (h found)
    | some other =>
      obtain ⟨hother, hotherFirst⟩ := h
      have hbefore : size other.before = size found.before :=
        Nat.le_antisymm (hotherFirst found hfound).leftmost (hfirst other hother).leftmost
      have hname : size other.name = size found.name :=
        Nat.le_antisymm ((hfirst other hother).longest hbefore.symm)
          ((hotherFirst found hfound).longest hbefore)
      rw [hinjective other found hother hfound hbefore hname]

theorem Finds.congr (h : Finds stands here) (hiff : ∀ found, stands found ↔ others found) :
    Finds others here := by
  obtain rfl : stands = others := funext fun found => propext (hiff found)
  exact h

end Search

section Names

variable {names : FieldSet} {before after : Text} {found : Located}

theorem isBoundary_iff {neighbour : Option Char} :
    isBoundary neighbour = true ↔ ∀ c ∈ neighbour, isAlphabetic c = false ∧ c ≠ tick := by
  cases neighbour with
  | none => simp [isBoundary]
  | some c => simp [isBoundary]

theorem beginsField_iff {run name : Text} :
    beginsField before run after name = true ↔ name <+: run ∧
      Located.IsApart ⟨before, name, run.drop name.length ++ after⟩ := by
  rw [beginsField, Bool.and_eq_true, Bool.and_eq_true, List.isPrefixOf_iff_prefix, isBoundary_iff,
    isBoundary_iff, and_assoc]
  exact and_congr_right fun _ => ⟨fun h => ⟨h.1, h.2⟩, fun h => ⟨h.before, h.after⟩⟩

-- Names that stand at the beginning of a run are tried from the longest on.
theorem finds_here (names : FieldSet) (before run after : Text) :
    Finds (fun found => found.name ∈ names.names ∧
        beginsField before run after found.name = true ∧ found.before = before ∧
        found.after = run.drop found.name.length ++ after)
      ((names.names.find? (beginsField before run after)).map fun name =>
        ⟨before, name, run.drop name.length ++ after⟩) := by
  cases hfind : names.names.find? (beginsField before run after) with
  | none =>
    rintro found ⟨hknown, hstarts, -⟩
    exact List.find?_eq_none.1 hfind found.name hknown hstarts
  | some name =>
    obtain ⟨hname, earlier, later, hnames, hearlier⟩ := List.find?_eq_some_iff_append.1 hfind
    have hknown : name ∈ names.names := List.mem_of_find?_eq_some hfind
    refine ⟨⟨hknown, hname, rfl, rfl⟩, ?_⟩
    rintro other ⟨hother, hstarts, hbefore, -⟩
    refine ⟨Nat.le_of_eq (congrArg size hbefore.symm), fun _ => ?_⟩
    -- The other name is not tried before this one, so it is not longer.
    have hordered := names.ordered
    rw [hnames] at hother hordered
    rcases List.mem_append.1 hother with hother | hother
    · simpa [hstarts] using hearlier other.name hother
    · rcases List.mem_cons.1 hother with heq | hother
      · exact Nat.le_of_eq (congrArg size heq)
      · have htried := (List.pairwise_cons.1 (List.pairwise_append.1 hordered).2.1).1 _ hother
        rcases htried with hlt | ⟨heq, -⟩
        · exact Nat.le_of_lt hlt
        · exact Nat.le_of_eq heq.symm

end Names

section Runs

variable {names : FieldSet} {before after : Text} {found : Located}

theorem StandsIn.ne_nil {run : Text} (h : StandsIn names before run after found) :
    found.name ≠ [] :=
  names.named found.name h.known

theorem not_standsIn_nil : ¬StandsIn names before [] after found := by
  intro h
  obtain ⟨left, right, hrun, -⟩ := h.inside
  simp [h.ne_nil] at hrun

-- A name stands at the beginning of a run or behind its first character.
theorem standsIn_cons {c : Char} {rest : Text} :
    StandsIn names before (c :: rest) after found ↔
      (found.name ∈ names.names ∧ beginsField before (c :: rest) after found.name = true ∧
        found.before = before ∧ found.after = (c :: rest).drop found.name.length ++ after) ∨
      StandsIn names (before ++ [c]) rest after found := by
  obtain ⟨foundBefore, name, foundAfter⟩ := found
  rw [beginsField_iff]
  constructor
  · rintro ⟨hknown, ⟨left, right, hrun, hbefore, hafter⟩, hapart⟩
    simp only at hknown hrun hbefore hafter
    cases left with
    | nil =>
      left
      rw [List.nil_append] at hrun
      rw [List.append_nil] at hbefore
      subst hbefore hafter
      have hdrop : (c :: rest).drop name.length = right := by rw [hrun, List.drop_left]
      rw [hdrop]
      exact ⟨hknown, ⟨⟨right, hrun.symm⟩, hapart⟩, rfl, rfl⟩
    | cons first left =>
      right
      rw [List.cons_append, List.cons_append, List.cons.injEq] at hrun
      obtain ⟨rfl, hrest⟩ := hrun
      exact ⟨hknown, ⟨left, right, hrest, by simp [hbefore], hafter⟩, hapart⟩
  · rintro (⟨hknown, ⟨⟨right, hrun⟩, hapart⟩, hbefore, hafter⟩ |
      ⟨hknown, ⟨left, right, hrest, hbefore, hafter⟩, hapart⟩)
    · simp only at hknown hrun hbefore hafter
      have hdrop : (c :: rest).drop name.length = right := by rw [← hrun, List.drop_left]
      rw [hdrop] at hafter hapart
      subst hbefore hafter
      exact ⟨hknown, ⟨[], right, by simp [hrun], by simp, rfl⟩, hapart⟩
    · simp only at hknown hrest hbefore hafter
      exact ⟨hknown, ⟨c :: left, right, by simp [hrest], by simp [hbefore], hafter⟩, hapart⟩

theorem StandsIn.size_le {run : Text} (h : StandsIn names before run after found) :
    size before ≤ size found.before := by
  obtain ⟨left, right, -, hbefore, -⟩ := h.inside
  rw [hbefore, size_append]
  exact Nat.le_add_right _ _

theorem StandsIn.size_lt {run : Text} (h : StandsIn names before run after found) :
    size found.before < size before + size run := by
  obtain ⟨left, right, hrun, hbefore, -⟩ := h.inside
  have hpos := size_pos_of_ne_nil h.ne_nil
  rw [hrun, hbefore, size_append, size_append, size_append]
  omega

theorem finds_seekInRun (names : FieldSet) (before run after : Text) :
    Finds (StandsIn names before run after) (seekInRun names.names before run after) := by
  induction run generalizing before with
  | nil => exact fun found => not_standsIn_nil
  | cons c rest ih =>
    have hstep : seekInRun names.names before (c :: rest) after =
        ((names.names.find? (beginsField before (c :: rest) after)).map fun name =>
          ⟨before, name, (c :: rest).drop name.length ++ after⟩).or
        (seekInRun names.names (before ++ [c]) rest after) := by
      rw [seekInRun]
      cases names.names.find? (beginsField before (c :: rest) after) <;> rfl
    rw [hstep]
    refine ((finds_here names before (c :: rest) after).or (ih (before ++ [c])) ?_).congr
      fun found => standsIn_cons.symm
    rintro found other ⟨-, -, hbefore, -⟩ hother
    have hle := hother.size_le
    have hpos := c.utf8Size_pos
    rw [size_append, size_cons, size_nil] at hle
    rw [hbefore]
    omega

end Runs

section Lexemes

variable {names : FieldSet} {before : Text} {found : Located}

theorem standsInLexemes_cons {lexeme : Lexeme} {rest : List Lexeme} :
    StandsInLexemes names before (lexeme :: rest) found ↔
      (∃ run, lexeme = .text run ∧ StandsIn names before run (rest.flatMap Lexeme.spelling) found) ∨
      StandsInLexemes names (before ++ lexeme.spelling) rest found := by
  constructor
  · rintro ⟨earlier, run, later, hlexemes, hstands⟩
    cases earlier with
    | nil =>
      rw [List.nil_append, List.cons.injEq] at hlexemes
      obtain ⟨rfl, rfl⟩ := hlexemes
      rw [List.flatMap_nil, List.append_nil] at hstands
      exact .inl ⟨run, rfl, hstands⟩
    | cons first earlier =>
      rw [List.cons_append, List.cons.injEq] at hlexemes
      obtain ⟨rfl, hlexemes⟩ := hlexemes
      rw [List.flatMap_cons, ← List.append_assoc] at hstands
      exact .inr ⟨earlier, run, later, hlexemes, hstands⟩
  · rintro (⟨run, rfl, hstands⟩ | ⟨earlier, run, later, rfl, hstands⟩)
    · exact ⟨[], run, rest, rfl, by rwa [List.flatMap_nil, List.append_nil]⟩
    · exact ⟨lexeme :: earlier, run, later, rfl, by
        rwa [List.flatMap_cons, ← List.append_assoc]⟩

theorem StandsInLexemes.size_le {lexemes : List Lexeme}
    (h : StandsInLexemes names before lexemes found) : size before ≤ size found.before := by
  obtain ⟨earlier, run, later, -, hstands⟩ := h
  have hle := hstands.size_le
  rw [size_append] at hle
  omega

theorem finds_seek (names : FieldSet) (before : Text) (lexemes : List Lexeme) :
    Finds (StandsInLexemes names before lexemes) (seek names.names before lexemes) := by
  induction lexemes generalizing before with
  | nil =>
    rintro found ⟨earlier, run, later, hlexemes, -⟩
    simp at hlexemes
  | cons lexeme rest ih =>
    have hrest := ih (before ++ lexeme.spelling)
    cases lexeme with
    | text run =>
      have hhere : Finds (fun found => ∃ other, Lexeme.text run = .text other ∧
          StandsIn names before other (rest.flatMap Lexeme.spelling) found)
          (seekInRun names.names before run (rest.flatMap Lexeme.spelling)) :=
        (finds_seekInRun names before run _).congr (by simp)
      simp only [seek]
      refine (hhere.or hrest ?_).congr fun found => standsInLexemes_cons.symm
      rintro found other ⟨_, heq, hfound⟩ hother
      obtain rfl := Lexeme.text.inj heq
      have hlt := hfound.size_lt
      have hle := hother.size_le
      rw [size_append, Lexeme.spelling] at hle
      omega
    | escaped | dependent | plural | unterminated =>
      simp only [seek, Option.none_or]
      exact hrest.congr fun found => by simp [standsInLexemes_cons]

-- The length in bytes decides how a text is cut in two.
theorem append_inj_of_size {left right other rest : Text} (h : left ++ right = other ++ rest)
    (hsize : size left = size other) : left = other ∧ right = rest := by
  induction left generalizing other with
  | nil =>
    cases other with
    | nil => exact ⟨rfl, h⟩
    | cons c other => exact absurd hsize (Nat.ne_of_lt (size_pos_of_ne_nil (List.cons_ne_nil _ _)))
  | cons c left ih =>
    cases other with
    | nil => exact absurd hsize (Nat.ne_of_gt (size_pos_of_ne_nil (List.cons_ne_nil _ _)))
    | cons first other =>
      rw [List.cons_append, List.cons_append, List.cons.injEq] at h
      obtain ⟨rfl, h⟩ := h
      obtain ⟨rfl, rfl⟩ := ih h (Nat.add_left_cancel hsize)
      exact ⟨rfl, rfl⟩

-- The lexemes before a text are what stands before its first byte.
theorem stands_iff {segment : Text} :
    Stands names segment found ↔
      StandsInLexemes names [] (lexemesOf .segment segment) found := by
  have hspelling := flatMap_spelling_lexemesOf .segment segment
  rw [Stands, lex_eq]
  constructor
  · rintro ⟨token, htoken, before, run, after, hkind, hsegment, hstart, hstands⟩
    obtain ⟨earlier, lexeme, later, hlexemes, rfl⟩ := exists_of_mem_tokensFrom htoken
    obtain rfl := kind_eq_text_iff.1 hkind
    rw [hlexemes, List.flatMap_append, List.flatMap_cons] at hspelling
    have hcut : earlier.flatMap Lexeme.spelling ++ (run ++ later.flatMap Lexeme.spelling) =
        before ++ (run ++ after) := hspelling.trans (hsegment.trans (List.append_assoc _ _ _))
    obtain ⟨rfl, hrest⟩ := append_inj_of_size hcut ((Nat.zero_add _).symm.trans hstart.symm)
    obtain rfl := List.append_cancel_left hrest
    exact ⟨earlier, run, later, hlexemes, hstands⟩
  · rintro ⟨earlier, run, later, hlexemes, hstands⟩
    rw [hlexemes, List.flatMap_append, List.flatMap_cons, ← List.append_assoc] at hspelling
    refine ⟨(Lexeme.text run).token (size (earlier.flatMap Lexeme.spelling)), ?_, _, run, _, rfl,
      hspelling.symm, rfl, hstands⟩
    rw [hlexemes, tokensFrom_append, Nat.zero_add]
    exact List.mem_append_right _ List.mem_cons_self

theorem finds_locate (names : FieldSet) (segment : Text) :
    Finds (Stands names segment) (locate names segment) := by
  rw [locate_eq]
  exact (finds_seek names [] (lexemesOf .segment segment)).congr fun found => stands_iff.symm

theorem Stands.append {segment : Text} (h : Stands names segment found) :
    found.before ++ (found.name ++ found.after) = segment := by
  obtain ⟨token, -, before, run, after, -, rfl, -, hstands⟩ := h
  obtain ⟨left, right, rfl, hbefore, hafter⟩ := hstands.inside
  rw [hbefore, hafter]
  simp

theorem Stands.eq_of_size_eq {segment : Text} {other : Located}
    (h : Stands names segment found) (hother : Stands names segment other)
    (hbefore : size found.before = size other.before) (hname : size found.name = size other.name) :
    found = other := by
  obtain ⟨before, name, after⟩ := found
  obtain ⟨otherBefore, otherName, otherAfter⟩ := other
  obtain ⟨rfl, hrest⟩ := append_inj_of_size (h.append.trans hother.append.symm) hbefore
  obtain ⟨rfl, rfl⟩ := append_inj_of_size hrest hname
  rfl

end Lexemes

namespace FieldSet

variable {fields : FieldSet} {name : Text}

-- A set that is made of some names and then extended again and again.
def built (names : List Text) (batches : List (List Text)) : FieldSet :=
  batches.foldl extend (ofList names)

theorem mem_names_insert {other : Text} :
    name ∈ (fields.insert other).names ↔ name ∈ fields.names ∨ name = other ∧ name ≠ [] := by
  unfold insert
  split
  · next h =>
    subst h
    simp
  · next h =>
    rw [mem_placed, or_comm]
    refine or_congr_right ⟨?_, And.left⟩
    rintro rfl
    exact ⟨rfl, h⟩

theorem mem_names_extend {names : List Text} :
    name ∈ (fields.extend names).names ↔ name ∈ fields.names ∨ name ∈ names ∧ name ≠ [] := by
  induction names generalizing fields with
  | nil => simp [extend]
  | cons other rest ih =>
    have hstep : fields.extend (other :: rest) = (fields.insert other).extend rest := rfl
    rw [hstep, ih, mem_names_insert, List.mem_cons, or_and_right, or_assoc]

theorem mem_names_foldl_extend {batches : List (List Text)} :
    name ∈ (batches.foldl extend fields).names ↔
      name ∈ fields.names ∨ name ∈ batches.flatten ∧ name ≠ [] := by
  induction batches generalizing fields with
  | nil => simp
  | cons batch rest ih =>
    rw [List.foldl_cons, ih, mem_names_extend, List.flatten_cons, List.mem_append, or_and_right,
      or_assoc]

theorem mem_names_built {names : List Text} {batches : List (List Text)} :
    name ∈ (built names batches).names ↔ name ∈ (names :: batches).flatten ∧ name ≠ [] := by
  rw [built, mem_names_foldl_extend, ofList, mem_names_extend, List.flatten_cons, List.mem_append,
    or_and_right]
  simp [empty]

-- The names of a set have one order, so that it is known by what is in it.
theorem eq_of_mem_iff {other : FieldSet} (h : ∀ name, name ∈ fields.names ↔ name ∈ other.names) :
    fields = other := by
  have : Std.Irrefl Precedes := ⟨Precedes.irrefl⟩
  have : Std.Antisymm Precedes :=
    ⟨fun left right hleft hright => absurd (hleft.trans hright) (Precedes.irrefl left)⟩
  exact ext (fields.ordered.eq_of_mem_iff other.ordered h)

end FieldSet

-- The field of a segment is the leftmost name that stands in its plain text, and the
-- longest one there. So a template is compiled alike whichever way the names were put
-- together.
theorem locate_leftmost_longest (names : FieldSet) (segment : Text) :
    (∀ found, locate names segment = some found ↔
      Stands names segment found ∧ ∀ other, Stands names segment other → found.ComesFirst other) ∧
    (locate names segment = none ↔ ∀ found, ¬Stands names segment found) ∧
    ∀ first batches other others,
      (∀ name, name ≠ [] → (name ∈ (first :: batches).flatten ↔ name ∈ (other :: others).flatten)) →
      ∀ source, compile source (.built first batches) = compile source (.built other others) := by
  have hfinds := finds_locate names segment
  refine ⟨fun found => hfinds.eq_some_iff ?_, hfinds.eq_none_iff, ?_⟩
  · exact fun left right hleft hright => hleft.eq_of_size_eq hright
  · intro first batches other others h source
    have heq : FieldSet.built first batches = .built other others := by
      refine FieldSet.eq_of_mem_iff fun name => ?_
      rw [FieldSet.mem_names_built, FieldSet.mem_names_built]
      exact and_congr_left (h name)
    rw [heq]

-- Neither a longer name that ends inside a word nor a name inside a quotation or a word
-- hides the one that stands alone.
theorem locate_date_alone :
    let first := ["date", "year"].map String.toList
    let batches := [["date o", "date"].map String.toList]
    let other := ["date o"].map String.toList
    let others := [["", "year"].map String.toList, ["year", "date"].map String.toList]
    let names := FieldSet.built first batches
    let segment := "`date` dates, updated (date of".toList
    let found : Located := ⟨"`date` dates, updated (".toList, "date".toList, " of".toList⟩
    Stands names segment found ∧
      (∀ name, name ≠ [] →
        (name ∈ (first :: batches).flatten ↔ name ∈ (other :: others).flatten)) ∧
      (∀ other, Stands names segment other → found.ComesFirst other) ∧
      ∀ source, compile source names = compile source (.built other others) := by
  intro first batches other others names segment found
  have hsame : ∀ name, name ≠ [] →
      (name ∈ (first :: batches).flatten ↔ name ∈ (other :: others).flatten) := by
    intro name hname
    simp only [first, batches, other, others, List.flatten_cons, List.flatten_nil, List.map_cons,
      List.map_nil, List.mem_append, List.mem_cons, List.not_mem_nil, String.toList_empty, hname]
    grind only
  obtain ⟨hlocate, -, hcompile⟩ := locate_leftmost_longest names segment
  obtain ⟨hstands, hfirst⟩ := (hlocate found).1 (by decide +kernel)
  exact ⟨hstands, hsame, hfirst, hcompile first batches other others hsame⟩

end Referencing.Template
