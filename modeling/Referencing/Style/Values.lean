import Referencing.Data.Field

namespace Referencing

-- Sentence case keeps the capital of the first letter only.
inductive TitleCase
  | asEntered
  | sentence
  deriving DecidableEq, Repr

inductive EditionForm
  | cardinal
  | ordinal
  | words
  deriving DecidableEq, Repr

-- How the end of a page range is written: as entered, without the digits it
-- shares with the start, with at least two digits, or in full.
inductive PageForm
  | asEntered
  | abbreviated
  | twoDigit
  | expanded
  deriving DecidableEq, Repr

inductive RunningTimeForm
  | apostrophe
  | colon
  | comma
  | words
  | wordsAnd
  deriving DecidableEq, Repr

inductive DayForm
  | plain
  | ordinal
  deriving DecidableEq, Repr

inductive MonthForm
  | long
  | short
  | numeric
  -- Names that the style gives.
  | user
  deriving DecidableEq, Repr

inductive DateOrder
  | dayMonth
  | monthDay
  deriving DecidableEq, Repr

structure DateOptions where
  day : DayForm := .plain
  dayLeadingZero : Bool := false
  month : MonthForm := .long
  order : DateOrder := .dayMonth
  separator : Text := [' ']
  monthNames : List Text := []
  deriving DecidableEq, Repr

def TitleCase.form : Form TitleCase :=
  .choice [("as-entered", .asEntered), ("sentence-case", .sentence)]

def EditionForm.form : Form EditionForm :=
  .choice [("cardinal", .cardinal), ("ordinal", .ordinal), ("words", .words)]

def PageForm.form : Form PageForm :=
  .choice [("as-entered", .asEntered), ("abbreviated", .abbreviated), ("two-digit", .twoDigit),
    ("expanded", .expanded)]

def RunningTimeForm.form : Form RunningTimeForm :=
  .choice [("apostrophe", .apostrophe), ("colon", .colon), ("comma", .comma), ("words", .words),
    ("words-and", .wordsAnd)]

def DayForm.form : Form DayForm :=
  .choice [("plain", .plain), ("ordinal", .ordinal)]

def MonthForm.form : Form MonthForm :=
  .choice [("long", .long), ("short", .short), ("numeric", .numeric), ("user", .user)]

def DateOrder.form : Form DateOrder :=
  .choice [("day-month", .dayMonth), ("month-day", .monthDay)]

def DateOptions.fields : List (Field DateOptions) :=
  [.always "day" DayForm.form (·.day) (fun value options => { options with day := value }),
    .always "day-leading-zero" .flag (·.dayLeadingZero)
      (fun value options => { options with dayLeadingZero := value }),
    .always "month" MonthForm.form (·.month) (fun value options => { options with month := value }),
    .always "order" DateOrder.form (·.order) (fun value options => { options with order := value }),
    .always "separator" .text (·.separator)
      (fun value options => { options with separator := value }),
    .sparing "month-names" (.list .text) List.isEmpty (·.monthNames)
      (fun value options => { options with monthNames := value })]

def DateOptions.form : Form DateOptions :=
  .record fields {}

end Referencing
