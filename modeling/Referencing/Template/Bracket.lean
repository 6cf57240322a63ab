import Referencing.Template.Compiled

namespace Referencing.Template

open Text

-- The text printed for each field so far, none for a field that is not there.
abbrev Printed := List (Option Text)

-- Applies a change to the text at an index.
def changeAt (index : Nat) (change : Text → Text) (printed : Printed) : Printed :=
  printed.modify index (·.map change)

-- The indices from `first` up to `stop` at which something is printed.
def printedWithin (first stop : Nat) (printed : Printed) : List Nat :=
  (List.range' first (stop - first)).filter fun index => (printed[index]?.join).isSome

-- Puts a pair around the first and last text it encloses. When it encloses none
-- its alternative goes to the nearest text before it, or else after it.
def Pair.attach (pair : Pair) (printed : Printed) : Printed :=
  let stop := min pair.stop printed.length
  let first := min pair.first stop
  let inside := printedWithin first stop printed
  match inside.head?, inside.getLast? with
  | some start, some finish =>
    changeAt finish (· ++ pair.closing) (changeAt start (pair.opening ++ ·) printed)
  | _, _ =>
    match (printedWithin 0 first printed).getLast? with
    | some before => changeAt before (· ++ pair.alternative) printed
    | none =>
      match (printedWithin stop printed.length printed).head? with
      | some after => changeAt after (pair.alternative ++ ·) printed
      | none => printed

def attachAll (pairs : List Pair) (printed : Printed) : Printed :=
  pairs.foldl (fun printed pair => pair.attach printed) printed

end Referencing.Template
