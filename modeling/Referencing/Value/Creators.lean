import Referencing.Value.Name

namespace Referencing.Value

open Text

-- A list of creators as it is printed.
structure Creators where
  text : Text := []
  -- More than one creator, or a list cut short.
  isPlural : Bool := false
  -- How many creators there were before any were left out.
  count : Nat := 0
  deriving DecidableEq, Repr

def attach (text : Text) (before : Bool) (name : Text) : Text :=
  if before then text ++ name else name ++ text

def rewriteRemainder (rule : Rewrite) (names : List Text) : List Text :=
  match rule.remainder with
  | none => names
  | some text =>
    if rule.remainderEach then names.map (attach text rule.remainderBefore)
    else if rule.remainderBefore then names.modifyHead (text ++ ·)
    else names.modify (names.length - 1) (· ++ text)

-- Attaches the texts of a rewrite: one to the first name, the other to the
-- names after it, to each of them or once at their beginning or end.
def applyRewrite (rule : Rewrite) : List Text → List Text
  | [] => []
  | first :: rest =>
    rule.first.elim first (attach · rule.firstBefore first) :: rewriteRemainder rule rest

-- The names after the second one of a whole list.
def joinLater (bundle : Bundle) : List Text → Text
  | [] => []
  | [last] => bundle.lastSeparator ++ last
  | name :: rest => bundle.nextSeparator ++ name ++ joinLater bundle rest

def joinWhole (bundle : Bundle) : List Text → Text
  | [] => []
  | [only] => only
  | [first, second] => first ++ bundle.twoCreatorsSeparator ++ second
  | first :: second :: rest => first ++ bundle.firstSeparator ++ second ++ joinLater bundle rest

-- Names before an abbreviation are joined without a special last separator.
def joinTruncated (bundle : Bundle) : List Text → Text
  | [] => []
  | [only] => only
  | first :: second :: rest =>
    first ++ bundle.firstSeparator ++ second ++ rest.flatMap (bundle.nextSeparator ++ ·)

-- The truncation that applies to a list of so many creators.
def truncationFor (bundle : Bundle) (count : Nat) : Option Truncation :=
  bundle.truncation.filter (·.moreThan < count)

-- At least one creator is kept.
def keptOf (truncation : Option Truncation) (count : Nat) : Nat :=
  truncation.elim count fun options => min (max options.limit 1) count

def abbreviationOf (options : Truncation) : Text :=
  if options.abbreviationItalic then
    leadingBlank options.abbreviation ++ "[i]".toList ++ trimStart options.abbreviation ++
      "[/i]".toList
  else options.abbreviation

-- The names that are printed, each in its order.
def layoutNames (bundle : Bundle) : CreatorList → List Text
  | [] => []
  | first :: rest =>
    layoutName bundle bundle.firstOrder first :: rest.map (layoutName bundle bundle.otherOrder)

def layoutCreators (bundle : Bundle) (rewrite : Option Rewrite) (creators : CreatorList) :
    Creators :=
  let count := creators.length
  let truncation := truncationFor bundle count
  let names := layoutNames bundle (creators.take (keptOf truncation count))
  let names := rewrite.elim names (applyRewrite · names)
  let text := truncation.elim (joinWhole bundle names) fun options =>
    joinTruncated bundle names ++ abbreviationOf options
  if count = 0 then {}
  else ⟨text, decide (1 < count) || truncation.isSome, count⟩

end Referencing.Value
