import Referencing.Value.Ordinal

namespace Referencing.Value

open Text

def longMonths : List Text :=
  ["January", "February", "March", "April", "May", "June", "July", "August", "September",
    "October", "November", "December"].map String.toList

def shortMonths : List Text :=
  ["Jan.", "Feb.", "Mar.", "Apr.", "May", "June", "July", "Aug.", "Sept.", "Oct.", "Nov.",
    "Dec."].map String.toList

-- Months are counted from one. Names that a style gives are used only if there
-- are twelve.
def layoutMonth (options : DateOptions) (month : Nat) : Text :=
  match options.month with
  | .long => longMonths.getD (month - 1) []
  | .short => shortMonths.getD (month - 1) []
  | .numeric => ofNat month
  | .user =>
    (if options.monthNames.length = 12 then options.monthNames else longMonths).getD (month - 1) []

def layoutDay (options : DateOptions) (day : Nat) : Text :=
  match options.day with
  | .plain => if options.dayLeadingZero then twoDigits day else ofNat day
  | .ordinal => ordinal day

-- A date needs a month; a day alone means nothing.
def layoutDate (options : DateOptions) (day month : Option Text) : Option Text :=
  let monthNumber := (month.bind fun text => largeNumeral? (trim text)).filter fun n =>
    decide (1 ≤ n) && decide (n ≤ 12)
  let dayNumber := (day.bind fun text => smallNumeral? (trim text)).filter fun n =>
    decide (1 ≤ n) && decide (n ≤ 31)
  monthNumber.map fun month =>
    let month := layoutMonth options month
    match dayNumber with
    | none => month
    | some day =>
      match options.order with
      | .dayMonth => layoutDay options day ++ options.separator ++ month
      | .monthDay => month ++ options.separator ++ layoutDay options day

end Referencing.Value
