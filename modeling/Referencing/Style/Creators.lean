import Referencing.Data.Field

namespace Referencing

-- How a single name is laid out.
inductive NameOrder
  | firstLast
  | lastCommaFirst
  | lastFirst
  | lastOnly
  deriving DecidableEq, Repr

-- Whether initials have full stops and spaces.
inductive InitialsForm
  | dottedSpaced
  | dotted
  | spaced
  | compact
  deriving DecidableEq, Repr

-- Whether given names are spelled out or reduced to initials.
inductive GivenForm
  | full
  | initial
  deriving DecidableEq, Repr

-- What is printed when an entry has the same creators as the one before it.
inductive RepeatPolicy
  | print
  | replace
  | omit
  deriving DecidableEq, Repr

-- When a list is cut short, how many creators are kept, and what stands for the
-- others.
structure Truncation where
  moreThan : Nat := 3
  limit : Nat := 1
  abbreviation : Text := " et al.".toList
  abbreviationItalic : Bool := false
  deriving DecidableEq, Repr

-- How a list of creators is laid out.
structure Bundle where
  firstOrder : NameOrder := .lastCommaFirst
  otherOrder : NameOrder := .firstLast
  initials : InitialsForm := .dottedSpaced
  given : GivenForm := .full
  uppercase : Bool := false
  twoCreatorsSeparator : Text := " and ".toList
  -- Of three or more creators: after the first, after later ones, before the
  -- last.
  firstSeparator : Text := ", ".toList
  nextSeparator : Text := ", ".toList
  lastSeparator : Text := ", and ".toList
  truncation : Option Truncation := none
  repeated : RepeatPolicy := .print
  repeatText : Text := []
  deriving DecidableEq, Repr

-- Text attached to the creators of one field for one resource type.
structure Rewrite where
  first : Option Text := none
  firstBefore : Bool := false
  remainder : Option Text := none
  remainderBefore : Bool := false
  -- Attach the remainder to every creator after the first instead of once.
  remainderEach : Bool := false
  deriving DecidableEq, Repr

def NameOrder.form : Form NameOrder :=
  .choice [("first-last", .firstLast), ("last-comma-first", .lastCommaFirst),
    ("last-first", .lastFirst), ("last-only", .lastOnly)]

def InitialsForm.form : Form InitialsForm :=
  .choice [("dotted-spaced", .dottedSpaced), ("dotted", .dotted), ("spaced", .spaced),
    ("compact", .compact)]

def GivenForm.form : Form GivenForm :=
  .choice [("full", .full), ("initial", .initial)]

def RepeatPolicy.form : Form RepeatPolicy :=
  .choice [("print", .print), ("replace", .replace), ("omit", .omit)]

def Truncation.fields : List (Field Truncation) :=
  [.always "more-than" .natural (·.moreThan)
      (fun value options => { options with moreThan := value }),
    .always "limit" .natural (·.limit) (fun value options => { options with limit := value }),
    .always "abbreviation" .text (·.abbreviation)
      (fun value options => { options with abbreviation := value }),
    .always "abbreviation-italic" .flag (·.abbreviationItalic)
      (fun value options => { options with abbreviationItalic := value })]

def Truncation.form : Form Truncation :=
  .record fields {}

def Bundle.fields : List (Field Bundle) :=
  [.always "first-order" NameOrder.form (·.firstOrder)
      (fun value bundle => { bundle with firstOrder := value }),
    .always "other-order" NameOrder.form (·.otherOrder)
      (fun value bundle => { bundle with otherOrder := value }),
    .always "initials" InitialsForm.form (·.initials)
      (fun value bundle => { bundle with initials := value }),
    .always "first-name" GivenForm.form (·.given)
      (fun value bundle => { bundle with given := value }),
    .always "uppercase" .flag (·.uppercase)
      (fun value bundle => { bundle with uppercase := value }),
    .always "two-creators-sep" .text (·.twoCreatorsSeparator)
      (fun value bundle => { bundle with twoCreatorsSeparator := value }),
    .always "sep-first-between" .text (·.firstSeparator)
      (fun value bundle => { bundle with firstSeparator := value }),
    .always "sep-next-between" .text (·.nextSeparator)
      (fun value bundle => { bundle with nextSeparator := value }),
    .always "sep-next-last" .text (·.lastSeparator)
      (fun value bundle => { bundle with lastSeparator := value }),
    .optional "list" Truncation.form (·.truncation)
      (fun value bundle => { bundle with truncation := value }),
    .always "repeat" RepeatPolicy.form (·.repeated)
      (fun value bundle => { bundle with repeated := value }),
    .always "repeat-string" .text (·.repeatText)
      (fun value bundle => { bundle with repeatText := value })]

def Bundle.form : Form Bundle :=
  .record fields {}

def Rewrite.fields : List (Field Rewrite) :=
  [.optional "first" .text (·.first) (fun value rule => { rule with first := value }),
    .always "first-before" .flag (·.firstBefore)
      (fun value rule => { rule with firstBefore := value }),
    .optional "remainder" .text (·.remainder) (fun value rule => { rule with remainder := value }),
    .always "remainder-before" .flag (·.remainderBefore)
      (fun value rule => { rule with remainderBefore := value }),
    .always "remainder-each" .flag (·.remainderEach)
      (fun value rule => { rule with remainderEach := value })]

def Rewrite.form : Form Rewrite :=
  .record fields {}

end Referencing
