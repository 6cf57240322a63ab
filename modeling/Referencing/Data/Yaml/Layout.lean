import Referencing.Data.Yaml
import Referencing.Data.Yaml.Character
import Referencing.Data.Yaml.Scalar

namespace Referencing.Yaml

open Text

-- A place in a text: what follows it, its line and column, and how many bytes
-- stand before it.
structure Place where
  rest : Text
  line : Nat := 0
  column : Nat := 0
  offset : Nat := 0
  deriving DecidableEq, Repr

namespace Place

def next (place : Place) : Place :=
  match place.rest with
  | [] => place
  | c :: rest =>
    if isBreak c then ⟨rest, place.line + 1, 0, place.offset + c.utf8Size⟩
    else ⟨rest, place.line, place.column + 1, place.offset + c.utf8Size⟩

def skip : Nat → Place → Place
  | 0, place => place
  | count + 1, place => skip count place.next

end Place

-- What a text consists of. Collections that are told by their indentation begin
-- and end with tokens of their own, and so does every key.
inductive Token
  | documentStart
  | documentEnd
  | beginSequence
  | beginMapping
  | endBlock
  | item
  | key
  | value
  | openList
  | closeList
  | openMapping
  | closeMapping
  | comma
  | scalar (scalar : YamlScalar)
  deriving DecidableEq, Repr

-- Where something began that turns out to be a key if a colon follows it. If it
-- stands at the column of an open mapping, it has to be one.
structure Candidate where
  place : Place
  required : Bool
  -- The tokens before it, in reverse.
  earlier : List Token

-- What has been read of a text and what that leaves open.
structure Layout where
  place : Place
  -- The tokens since the candidate or else the innermost bracket, in reverse.
  tokens : List Token := []
  candidate : Option Candidate := none
  -- For each open bracket the candidate before it, and the tokens since then.
  brackets : List (Option Candidate × List Token) := []
  -- The columns of the open collections without brackets, innermost first.
  columns : List Nat := []
  keyMayBegin : Bool := true

namespace Layout

def isBracketed (layout : Layout) : Bool :=
  !layout.brackets.isEmpty

-- Takes a token that is a number of characters long.
def push (token : Token) (size : Nat) (layout : Layout) : Layout :=
  { layout with tokens := token :: layout.tokens, place := layout.place.skip size }

-- Whether a collection begins at a column, since none stands there already.
def beginsAt (column : Nat) (layout : Layout) : Bool :=
  !layout.isBracketed && layout.columns.head?.all (· < column)

def indent (begins : Token) (layout : Layout) : Layout :=
  let column := layout.place.column
  if layout.beginsAt column then
    { layout with tokens := begins :: layout.tokens, columns := column :: layout.columns }
  else layout

private def close (ends : Nat → Bool) (layout : Layout) : Layout :=
  if layout.isBracketed then layout
  else
    let closed := layout.columns.takeWhile ends
    { layout with
      tokens := List.replicate closed.length .endBlock ++ layout.tokens
      columns := layout.columns.dropWhile ends }

-- A token closes the collections that stand further right.
def outdent (layout : Layout) : Layout :=
  layout.close (layout.place.column < ·)

def closeAll (layout : Layout) : Layout :=
  layout.close fun _ => true

def dropCandidate (layout : Layout) : Option Layout :=
  match layout.candidate with
  | none => some layout
  | some key =>
    if key.required then none
    else some { layout with candidate := none, tokens := layout.tokens ++ key.earlier }

-- A key is at most 1024 bytes long and stands on one line.
def settle (layout : Layout) : Option Layout :=
  let isPast := layout.candidate.any fun key =>
    key.place.line < layout.place.line || key.place.offset + 1024 < layout.place.offset
  if isPast then layout.dropCandidate else some layout

def markCandidate (layout : Layout) : Option Layout :=
  if layout.keyMayBegin then do
    let layout ← layout.dropCandidate
    let required := !layout.isBracketed && layout.columns.head? = some layout.place.column
    some { layout with candidate := some ⟨layout.place, required, layout.tokens⟩, tokens := [] }
  else some layout

-- How many characters are blanks, comments and line ends, and whether a key may
-- begin after them. A tab is no blank where a key may begin. Outside of brackets
-- a key may begin on every line.
private def space (bracketed keyMayBegin atStart inComment : Bool) : Text → Nat × Bool
  | [] => (0, keyMayBegin)
  | c :: rest =>
    let more (keyMayBegin atStart inComment : Bool) :=
      let (size, keyMayBegin) := space bracketed keyMayBegin atStart inComment rest
      (size + 1, keyMayBegin)
    if isBreak c then more (keyMayBegin || !bracketed) true false
    else if inComment || c = '#' then more keyMayBegin false true
    else if c = ' ' || (c = '\t' && (bracketed || !keyMayBegin)) || (atStart && isOrderMark c) then
      more keyMayBegin false false
    else (0, keyMayBegin)

def toNextToken (layout : Layout) : Layout :=
  let (size, keyMayBegin) := space layout.isBracketed layout.keyMayBegin
    (layout.place.column = 0) false layout.place.rest
  { layout with place := layout.place.skip size, keyMayBegin }

private def readBound (token : Token) (layout : Layout) : Option Layout := do
  let layout ← layout.closeAll.dropCandidate
  some { layout.push token 3 with keyMayBegin := false }

private def openBracket (token : Token) (layout : Layout) : Option Layout := do
  let layout ← layout.markCandidate
  let layout := layout.push token 1
  some { layout with
    tokens := []
    candidate := none
    brackets := (layout.candidate, layout.tokens) :: layout.brackets
    keyMayBegin := true }

private def closeBracket (token : Token) (layout : Layout) : Option Layout :=
  match layout.brackets with
  | [] => none
  | (candidate, tokens) :: brackets => do
    let layout ← layout.dropCandidate
    let layout := layout.push token 1
    some { layout with
      tokens := layout.tokens ++ tokens
      candidate
      brackets
      keyMayBegin := false }

private def readComma (layout : Layout) : Option Layout := do
  let layout ← layout.dropCandidate
  some { layout.push .comma 1 with keyMayBegin := true }

-- A sign that begins a collection of its own: the dash of an item, or the
-- question mark or colon of a key or value that nothing else tells.
private def readSign (token begins : Token) (layout : Layout) : Option Layout :=
  if layout.isBracketed || layout.keyMayBegin then do
    let layout ← (layout.indent begins).dropCandidate
    some { layout.push token 1 with keyMayBegin := !layout.isBracketed }
  else none

-- The colon that makes the candidate before it a key, or stands by itself.
private def readColon (layout : Layout) : Option Layout :=
  match layout.candidate with
  | none => readSign .value .beginMapping layout
  | some key =>
    let start := Layout.indent .beginMapping
      { layout with place := key.place, tokens := key.earlier, candidate := none }
    some { start with
      place := layout.place.next
      tokens := .value :: layout.tokens ++ .key :: start.tokens
      keyMayBegin := false }

private def readQuoted (quoted : Option Quoted) (layout : Layout) : Option Layout := do
  let quoted ← quoted
  let layout ← layout.markCandidate
  some { layout.push (.scalar (.quoted quoted.text)) (quoted.size + 1) with keyMayBegin := false }

private def readPlain (layout : Layout) : Option Layout := do
  let least := (layout.columns.head?.map (· + 1)).getD 0
  let plain ← plain? layout.isBracketed least .empty layout.place.rest
  let layout ← layout.markCandidate
  some { layout.push (.scalar (.plain plain.text)) plain.size with keyMayBegin := plain.isBroken }

-- Reads the token that begins with a character.
def read (c : Char) (rest : Text) (layout : Layout) : Option Layout :=
  let signals := layout.isBracketed || isSpaced rest
  if layout.place.column = 0 && c = '%' then none
  else if layout.place.column = 0 && beginsWithBound (c :: rest) then
    readBound (if c = '-' then .documentStart else .documentEnd) layout
  else if c = '[' then openBracket .openList layout
  else if c = '\x7b' then openBracket .openMapping layout
  else if c = ']' then closeBracket .closeList layout
  else if c = '\x7d' then closeBracket .closeMapping layout
  else if c = ',' then readComma layout
  else if c = '-' && isSpaced rest then
    if layout.isBracketed then none else readSign .item .beginSequence layout
  else if c = '?' && signals then readSign .key .beginMapping layout
  else if c = ':' && signals then readColon layout
  else if c = '"' then readQuoted (doubleQuoted? .empty rest) layout
  else if c = '\x27' then readQuoted (singleQuoted? .empty rest) layout
  else if mayBeginPlain layout.isBracketed (c :: rest) then readPlain layout
  else none

private def finish (layout : Layout) : Option (List Token) := do
  let layout ← layout.closeAll.dropCandidate
  if layout.isBracketed then none else some layout.tokens.reverse

-- Every token takes at least one character, so as much fuel as there are
-- characters suffices.
private def tokensWith : Nat → Layout → Option (List Token)
  | fuel, layout => do
    let layout ← layout.toNextToken.settle
    let layout := layout.outdent
    match fuel, layout.place.rest with
    | _, [] => layout.finish
    | 0, _ => none
    | fuel + 1, c :: rest => do
      let layout ← layout.read c rest
      tokensWith fuel layout

def tokens? (text : Text) : Option (List Token) :=
  tokensWith text.length { place := { rest := text } }

end Layout

end Referencing.Yaml
