import Referencing.Data.Json
import Referencing.Text.Numeral

namespace Referencing.Json

open Text

def escapeChar (c : Char) : Text :=
  match c with
  | '"' => ['\\', '"']
  | '\\' => ['\\', '\\']
  | '\x08' => ['\\', 'b']
  | '\x0c' => ['\\', 'f']
  | '\n' => ['\\', 'n']
  | '\r' => ['\\', 'r']
  | '\t' => ['\\', 't']
  | _ =>
    if c.toNat < 0x20 then
      let digits := hexadecimal c.toNat
      ['\\', 'u'] ++ List.replicate (4 - digits.length) '0' ++ digits
    else [c]

def printText (value : Text) : Text :=
  '"' :: value.flatMap escapeChar ++ ['"']

def printLeaf : JsonLeaf → Text
  | .null => "null".toList
  | .bool true => "true".toList
  | .bool false => "false".toList
  | .number (.natural value) => ofNat value
  | .number (.other literal) => literal
  | .text value => printText value
  | .unpaired literal => '"' :: literal ++ ['"']

private def newLine (depth : Nat) : Text :=
  '\n' :: List.replicate (2 * depth) ' '

-- Brackets around parts that stand on lines of their own; nothing between the
-- brackets if there is no part.
private def bracketed (depth : Nat) (opening closing : Char) (parts : List Text) : Text :=
  if parts = [] then [opening, closing]
  else
    opening :: newLine (depth + 1) ++ join (',' :: newLine (depth + 1)) parts ++ newLine depth ++
      [closing]

private def keyBefore (left right : Text × Text) : Bool :=
  !decide (right.1 < left.1)

mutual

-- The text of a value, indented by two blanks for each level. The keys of a
-- mapping are written in the order of their characters.
def pretty (depth : Nat) : Json → Text
  | .leaf value => printLeaf value
  | .list items => bracketed depth '[' ']' (prettyItems (depth + 1) items)
  | .mapping entries =>
    let printed := (prettyEntries (depth + 1) entries).mergeSort keyBefore
    bracketed depth '\x7b' '\x7d' (printed.map fun (key, value) =>
      printText key ++ [':', ' '] ++ value)

def prettyItems (depth : Nat) : List Json → List Text
  | [] => []
  | item :: rest => pretty depth item :: prettyItems depth rest

def prettyEntries (depth : Nat) : List (Text × Json) → List (Text × Text)
  | [] => []
  | (key, value) :: rest => (key, pretty depth value) :: prettyEntries depth rest

end

mutual

-- The text of a value on one line and without blanks.
def compact : Json → Text
  | .leaf value => printLeaf value
  | .list items => '[' :: join [','] (compactItems items) ++ [']']
  | .mapping entries => '\x7b' :: join [','] (compactEntries entries) ++ ['\x7d']

def compactItems : List Json → List Text
  | [] => []
  | item :: rest => compact item :: compactItems rest

def compactEntries : List (Text × Json) → List Text
  | [] => []
  | (key, value) :: rest => (printText key ++ ':' :: compact value) :: compactEntries rest

end

end Referencing.Json
