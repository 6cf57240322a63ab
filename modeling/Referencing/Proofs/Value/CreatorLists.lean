import Referencing.Proofs.Text.Trimmed
import Referencing.Value.Creators

namespace Referencing

-- What a rewrite puts before and behind the name at an index of so many printed names,
-- the first one having index 0.
def Rewrite.before (rule : Rewrite) (index : Nat) : Text :=
  if index = 0 then
    if rule.firstBefore then rule.first.getD [] else []
  else if rule.remainderBefore && (rule.remainderEach || index = 1) then rule.remainder.getD []
  else []

def Rewrite.behind (rule : Rewrite) (count index : Nat) : Text :=
  if index = 0 then
    if rule.firstBefore then [] else rule.first.getD []
  else if !rule.remainderBefore && (rule.remainderEach || index + 1 = count) then
    rule.remainder.getD []
  else []

namespace Value

open Text

def orderAt (bundle : Bundle) (index : Nat) : NameOrder :=
  if index = 0 then bundle.firstOrder else bundle.otherOrder

-- The names that are printed, each in the order of its place and with what a rewrite
-- puts there.
def printedNames (bundle : Bundle) (rule : Rewrite) (creators : CreatorList) : List Text :=
  creators.mapIdx fun index creator =>
    rule.before index ++ layoutName bundle (orderAt bundle index) creator ++
      rule.behind creators.length index

-- Texts one after the other, with the separator of its index behind each but the last one.
def separated (separator : Nat → Text) : List Text → Text
  | [] => []
  | first :: rest => first ++ (rest.mapIdx fun index text => separator index ++ text).flatten

-- The separators of a list of so many names that is not cut short, and of one that is.
def wholeSeparator (bundle : Bundle) (count index : Nat) : Text :=
  if count = 2 then bundle.twoCreatorsSeparator
  else if index + 2 = count then bundle.lastSeparator
  else if index = 0 then bundle.firstSeparator
  else bundle.nextSeparator

def truncatedSeparator (bundle : Bundle) (index : Nat) : Text :=
  if index = 0 then bundle.firstSeparator else bundle.nextSeparator

-- How an abbreviation is printed: one in italics has its leading white space before them.
def Abbreviates (options : Truncation) (text : Text) : Prop :=
  if options.abbreviationItalic then
    ∃ blanks rest, options.abbreviation = blanks ++ rest ∧ (∀ c ∈ blanks, isBlank c) ∧
      (∀ c ∈ rest.head?, isBlank c = false) ∧
      text = blanks ++ "[i]".toList ++ rest ++ "[/i]".toList
  else text = options.abbreviation

section Rewriting

variable (rule : Rewrite)

theorem before_succ (index : Nat) : rule.before (index + 1) =
    if rule.remainderBefore && (rule.remainderEach || index = 0) then rule.remainder.getD []
    else [] := by
  simp [Rewrite.before]

theorem behind_succ (count index : Nat) : rule.behind (count + 1) (index + 1) =
    if !rule.remainderBefore && (rule.remainderEach || index + 1 = count) then
      rule.remainder.getD []
    else [] := by
  simp [Rewrite.behind]

theorem rewriteRemainder_eq_mapIdx (names : List Text) :
    rewriteRemainder rule names = names.mapIdx fun index name =>
      rule.before (index + 1) ++ name ++ rule.behind (names.length + 1) (index + 1) := by
  obtain ⟨first, firstBefore, remainder, before, each⟩ := rule
  simp only [before_succ, behind_succ]
  refine List.ext_getElem? fun index => ?_
  rw [List.getElem?_mapIdx]
  cases remainder with
  | none => simp [rewriteRemainder]
  | some text =>
    cases each with
    | true =>
      have hbefore : attach text true = (text ++ ·) := rfl
      have hbehind : attach text false = (· ++ text) := rfl
      cases before <;> simp [rewriteRemainder, hbefore, hbehind]
    | false =>
      cases before with
      | true =>
        rcases names with _ | ⟨name, rest⟩
        · rfl
        · cases index <;> simp [rewriteRemainder]
      | false =>
        have hmodify : rewriteRemainder ⟨first, firstBefore, some text, false, false⟩ names =
            names.modify (names.length - 1) (· ++ text) := rfl
        rw [hmodify, List.getElem?_modify]
        cases hname : names[index]? with
        | none => rfl
        | some name =>
          have hindex := (List.getElem?_eq_some_iff.1 hname).1
          have hlast : names.length - 1 = index ↔ index + 1 = names.length := by omega
          by_cases h : index + 1 = names.length <;> simp [hlast, h]

theorem applyRewrite_eq_mapIdx (names : List Text) :
    applyRewrite rule names = names.mapIdx fun index name =>
      rule.before index ++ name ++ rule.behind names.length index := by
  cases names with
  | nil => rfl
  | cons first rest =>
    have hfirst : rule.first.elim first (attach · rule.firstBefore first) =
        rule.before 0 ++ first ++ rule.behind (rest.length + 1) 0 := by
      cases hfirst : rule.first <;> cases hbefore : rule.firstBefore <;>
        simp [Rewrite.before, Rewrite.behind, attach, hfirst, hbefore]
    rw [applyRewrite, hfirst, rewriteRemainder_eq_mapIdx, List.mapIdx_cons, List.length_cons]

end Rewriting

section Joining

variable (bundle : Bundle)

theorem layoutNames_eq_mapIdx (creators : CreatorList) :
    layoutNames bundle creators =
      creators.mapIdx fun index creator => layoutName bundle (orderAt bundle index) creator := by
  cases creators with
  | nil => rfl
  | cons first rest =>
    have hrest : rest.map (layoutName bundle bundle.otherOrder) = rest.mapIdx fun index creator =>
        layoutName bundle (orderAt bundle (index + 1)) creator := by
      refine List.ext_getElem? fun index => ?_
      rw [List.getElem?_map, List.getElem?_mapIdx]
      rfl
    rw [layoutNames, List.mapIdx_cons, hrest]
    rfl

theorem joinLater_eq (names : List Text) :
    joinLater bundle names = (names.mapIdx fun index name =>
      (if index + 1 = names.length then bundle.lastSeparator else bundle.nextSeparator) ++
        name).flatten := by
  fun_induction joinLater bundle names with
  | case1 => rfl
  | case2 last => simp
  | case3 name rest hrest ih =>
    have hne : 0 ≠ rest.length := fun h => hrest (List.length_eq_zero_iff.1 h.symm)
    simp [List.mapIdx_cons, ih, hne]

theorem joinWhole_eq (names : List Text) :
    joinWhole bundle names = separated (wholeSeparator bundle names.length) names := by
  rcases names with _ | ⟨first, _ | ⟨second, _ | ⟨third, rest⟩⟩⟩
  · rfl
  · simp [joinWhole, separated]
  · simp [joinWhole, separated, wholeSeparator]
  · simp [joinWhole, separated, wholeSeparator, joinLater_eq, List.mapIdx_cons]

theorem joinTruncated_eq (names : List Text) :
    joinTruncated bundle names = separated (truncatedSeparator bundle) names := by
  rcases names with _ | ⟨first, _ | ⟨second, rest⟩⟩
  · rfl
  · simp [joinTruncated, separated]
  · have hlater : rest.flatMap (bundle.nextSeparator ++ ·) =
        (rest.mapIdx fun index name => truncatedSeparator bundle (index + 1) ++ name).flatten := by
      induction rest with
      | nil => rfl
      | cons name rest ih => simpa [truncatedSeparator, List.mapIdx_cons] using ih
    simp [joinTruncated, separated, truncatedSeparator, List.mapIdx_cons, hlater]

end Joining

section Lists

variable (bundle : Bundle) (rewrite : Option Rewrite) (creators : CreatorList)

theorem rewritten_eq_printedNames :
    (rewrite.elim (layoutNames bundle creators) fun rule =>
        applyRewrite rule (layoutNames bundle creators)) =
      printedNames bundle (rewrite.getD {}) creators := by
  have hrewritten : (rewrite.elim (layoutNames bundle creators) fun rule =>
      applyRewrite rule (layoutNames bundle creators)) =
        applyRewrite (rewrite.getD {}) (layoutNames bundle creators) := by
    cases rewrite with
    | none => cases layoutNames bundle creators <;> rfl
    | some rule => rfl
  rw [hrewritten, applyRewrite_eq_mapIdx, layoutNames_eq_mapIdx, printedNames, List.mapIdx_mapIdx,
    List.length_mapIdx]
  rfl

theorem truncationFor_of_le {count : Nat}
    (h : ∀ options, bundle.truncation = some options → count ≤ options.moreThan) :
    truncationFor bundle count = none := by
  rw [truncationFor, Option.filter_eq_none_iff]
  intro options hoptions
  simpa using h options hoptions

theorem truncationFor_of_lt {options : Truncation} {count : Nat}
    (hoptions : bundle.truncation = some options) (h : options.moreThan < count) :
    truncationFor bundle count = some options := by
  rw [truncationFor, hoptions, Option.filter_some, if_pos (decide_eq_true h)]

theorem layoutCreators_whole
    (h : ∀ options, bundle.truncation = some options → creators.length ≤ options.moreThan) :
    layoutCreators bundle rewrite creators =
      ⟨separated (wholeSeparator bundle creators.length)
        (printedNames bundle (rewrite.getD {}) creators),
        decide (1 < creators.length), creators.length⟩ := by
  have hlength : (printedNames bundle (rewrite.getD {}) creators).length = creators.length := by
    rw [printedNames, List.length_mapIdx]
  simp only [layoutCreators, truncationFor_of_le bundle h, keptOf, Option.elim_none,
    List.take_length, rewritten_eq_printedNames, joinWhole_eq, hlength]
  cases creators with
  | nil => rfl
  | cons first rest => simp

theorem layoutCreators_truncated {options : Truncation}
    (hoptions : bundle.truncation = some options) (h : options.moreThan < creators.length) :
    layoutCreators bundle rewrite creators =
      ⟨separated (truncatedSeparator bundle)
          (printedNames bundle (rewrite.getD {})
            (creators.take (min (max options.limit 1) creators.length))) ++
          abbreviationOf options,
        true, creators.length⟩ := by
  have hne : creators.length ≠ 0 := by omega
  simp only [layoutCreators, truncationFor_of_lt bundle hoptions h, keptOf, Option.elim_some,
    rewritten_eq_printedNames, joinTruncated_eq, if_neg hne, Option.isSome_some, Bool.or_true]

theorem abbreviates_abbreviationOf (options : Truncation) :
    Abbreviates options (abbreviationOf options) := by
  unfold Abbreviates abbreviationOf
  split
  · refine ⟨leadingBlank options.abbreviation, trimStart options.abbreviation,
      (leadingBlank_append_trimStart _).symm, ?_, head?_trimStart_not_blank _, rfl⟩
    exact fun c hc => List.all_eq_true.1 List.all_takeWhile c hc
  · rfl

-- A list that is printed with a rewrite. All its names are printed, or the first ones and
-- an abbreviation; at least one is.
structure IsLaidOut (bundle : Bundle) (rule : Rewrite) (creators : CreatorList)
    (printed : Creators) : Prop where
  count : printed.count = creators.length
  whole : (∀ options, bundle.truncation = some options → creators.length ≤ options.moreThan) →
    (printed.isPlural ↔ 1 < creators.length) ∧
      printed.text =
        separated (wholeSeparator bundle creators.length) (printedNames bundle rule creators)
  truncated : ∀ options, bundle.truncation = some options →
    options.moreThan < creators.length →
    printed.isPlural ∧ ∃ abbreviation, Abbreviates options abbreviation ∧
      printed.text =
        separated (truncatedSeparator bundle)
          (printedNames bundle rule
            (creators.take (min (max options.limit 1) creators.length))) ++
          abbreviation

-- Names are printed in the order of the list, each with what its place asks for.
theorem isLaidOut_layoutCreators :
    IsLaidOut bundle (rewrite.getD {}) creators (layoutCreators bundle rewrite creators) where
  count := by cases creators <;> rfl
  whole := by
    intro h
    rw [layoutCreators_whole bundle rewrite creators h]
    exact ⟨decide_eq_true_iff, rfl⟩
  truncated := by
    intro options hoptions h
    rw [layoutCreators_truncated bundle rewrite creators hoptions h]
    exact ⟨rfl, abbreviationOf options, abbreviates_abbreviationOf options, rfl⟩

end Lists

end Value

end Referencing
