import Referencing.Markup.Marker
import Referencing.Style.Values
import Referencing.Text.Blank
import Referencing.Text.Bytes
import Referencing.Text.Numeral

namespace Referencing.Value

open Text

-- Pages as they are printed, and whether they are more than one.
structure Pages where
  text : Text
  isPlural : Bool
  deriving DecidableEq, Repr

-- The whole number of a last page from which the digits it shares with the first
-- page may have been left out.
def expand (start stop : Text) : Text :=
  if start.length ≤ stop.length then stop
  else start.take (start.length - stop.length) ++ stop

-- How many characters two texts have in common at their beginning.
def sharedLength : Text → Text → Nat
  | a :: left, b :: right => if a = b then sharedLength left right + 1 else 0
  | _, _ => 0

-- Leaves out the digits at the beginning that a last page shares with the first
-- one, but keeps some. Numbers of different length are kept whole.
def shorten (kept : Nat) (start stop : Text) : Text :=
  if start.length = stop.length then
    stop.drop (min (sharedLength start stop) (stop.length - kept))
  else stop

def isDigits (text : Text) : Bool :=
  text ≠ [] && text.all isDigit

def layoutStop (form : PageForm) (start stop : Text) : Text :=
  if isDigits start && isDigits stop then
    match form with
    | .asEntered => stop
    | .abbreviated => shorten 1 start (expand start stop)
    | .twoDigit => shorten 2 start (expand start stop)
    | .expanded => expand start stop
  else stop

-- The same with positions that are checked. Those of a slice are counted in bytes, those in a
-- list of characters by their number; behind the end there is nothing.
def expand? (start stop : Text) : Option Text :=
  if size start ≤ size stop then some stop
  else (cutAtByte? (size start - size stop) start).map fun cut => cut.1 ++ stop

def dropFirst? (count : Nat) (text : Text) : Option Text :=
  if count ≤ text.length then some (text.drop count) else none

def shorten? (kept : Nat) (start stop : Text) : Option Text :=
  if start.length = stop.length then
    dropFirst? (min (sharedLength start stop) (stop.length - kept)) stop
  else some stop

def layoutStop? (form : PageForm) (start stop : Text) : Option Text :=
  if isDigits start && isDigits stop then
    match form with
    | .asEntered => some stop
    | .abbreviated => (expand? start stop).bind (shorten? 1 start)
    | .twoDigit => (expand? start stop).bind (shorten? 2 start)
    | .expanded => expand? start stop
  else some stop

-- A range without an end, or with the same end, is one page.
def layoutRange (form : PageForm) (start : Text) (stop : Option Text) : Pages :=
  let start := trim start
  match (stop.map trim).filter fun stop => stop ≠ [] && stop ≠ start with
  | none => ⟨start, false⟩
  | some stop => ⟨start ++ Markup.dashMark ++ layoutStop form start stop, true⟩

-- What may stand between the first and last page of a locator. An earlier one
-- is looked for in the whole text before a later one.
def rangeMarks : List Text :=
  [Markup.dashMark, ['–'], ['-', '-'], ['-']]

def layoutPages (form : PageForm) (entered : Text) : Pages :=
  let entered := trim entered
  match rangeMarks.findSome? (cutAt? · entered) with
  | some (start, stop) => layoutRange form start (some stop)
  | none => ⟨entered, entered.contains ',' || entered.contains '&'⟩

end Referencing.Value
