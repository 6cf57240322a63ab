import Referencing.Data.Yaml.Layout

namespace Referencing.Yaml

-- Nothing is written before one of these tokens where a part of a collection is
-- expected.
private def endsPart : Token → Bool
  | .item | .key | .value | .endBlock | .comma | .closeList | .closeMapping => true
  | _ => false

-- Only a scalar can be a key.
def asKey? : Yaml → Option YamlScalar
  | .leaf scalar => some scalar
  | _ => none

mutual

-- What has been read, and the tokens that follow it.
-- A call takes at least one token itself or leaves them to a call that does, so
-- twice as much fuel as there are tokens suffices.
def node? : Nat → List Token → Option (Yaml × List Token)
  | _ + 1, .scalar scalar :: rest => some (.leaf scalar, rest)
  | fuel + 1, .beginSequence :: rest => do
    match ← items? fuel rest with
    | (items, .endBlock :: rest) => some (.list items, rest)
    | _ => none
  | fuel + 1, .beginMapping :: rest => do
    match ← entries? fuel rest with
    | (entries, .endBlock :: rest) => some (.mapping entries, rest)
    | _ => none
  | fuel + 1, .openList :: rest => do
    let (items, rest) ← listed? fuel rest
    some (.list items, rest)
  | fuel + 1, .openMapping :: rest => do
    let (entries, rest) ← mapped? fuel rest
    some (.mapping entries, rest)
  | _, _ => none

-- A part of a collection, which may be void.
def part? : Nat → List Token → Option (Yaml × List Token)
  | 0, _ => none
  | fuel + 1, tokens =>
    if tokens.head?.any endsPart then some (void, tokens) else node? fuel tokens

-- A key or value of a mapping. It may be a list whose dashes stand at the column
-- of the mapping, so that no token begins or ends it.
def side? : Nat → List Token → Option (Yaml × List Token)
  | 0, _ => none
  | fuel + 1, .item :: rest => do
    let (items, rest) ← items? fuel (.item :: rest)
    some (.list items, rest)
  | fuel + 1, tokens => part? fuel tokens

def items? : Nat → List Token → Option (List Yaml × List Token)
  | 0, _ => none
  | fuel + 1, .item :: rest => do
    let (item, rest) ← part? fuel rest
    let (items, rest) ← items? fuel rest
    some (item :: items, rest)
  | _ + 1, tokens => some ([], tokens)

def entries? : Nat → List Token → Option (List (YamlScalar × Yaml) × List Token)
  | 0, _ => none
  | fuel + 1, .key :: rest => do
    let (key, rest) ← side? fuel rest
    let key ← asKey? key
    match rest with
    | .value :: rest => do
      let (value, rest) ← side? fuel rest
      let (entries, rest) ← entries? fuel rest
      some ((key, value) :: entries, rest)
    | rest => do
      let (entries, rest) ← entries? fuel rest
      some ((key, void) :: entries, rest)
  | _ + 1, tokens => some ([], tokens)

-- The value of a key between brackets.
def assigned? : Nat → List Token → Option (Yaml × List Token)
  | 0, _ => none
  | fuel + 1, .value :: rest => part? fuel rest
  | _ + 1, tokens => some (void, tokens)

-- The items of a list in brackets from a place on where one may begin. An item
-- with a key is a mapping of this key alone.
def listed? : Nat → List Token → Option (List Yaml × List Token)
  | _ + 1, .closeList :: rest => some ([], rest)
  | fuel + 1, .key :: rest => do
    let (key, rest) ← node? fuel rest
    let key ← asKey? key
    let (value, rest) ← assigned? fuel rest
    let (items, rest) ← moreListed? fuel rest
    some (.mapping [(key, value)] :: items, rest)
  | fuel + 1, tokens => do
    let (item, rest) ← node? fuel tokens
    let (items, rest) ← moreListed? fuel rest
    some (item :: items, rest)
  | 0, _ => none

def moreListed? : Nat → List Token → Option (List Yaml × List Token)
  | _ + 1, .closeList :: rest => some ([], rest)
  | fuel + 1, .comma :: rest => listed? fuel rest
  | _, _ => none

def mapped? : Nat → List Token → Option (List (YamlScalar × Yaml) × List Token)
  | _ + 1, .closeMapping :: rest => some ([], rest)
  | fuel + 1, .key :: rest => do
    let (key, rest) ← part? fuel rest
    let key ← asKey? key
    let (value, rest) ← assigned? fuel rest
    let (entries, rest) ← moreMapped? fuel rest
    some ((key, value) :: entries, rest)
  | fuel + 1, tokens => do
    let (key, rest) ← node? fuel tokens
    let key ← asKey? key
    let (entries, rest) ← moreMapped? fuel rest
    some ((key, void) :: entries, rest)
  | 0, _ => none

def moreMapped? : Nat → List Token → Option (List (YamlScalar × Yaml) × List Token)
  | _ + 1, .closeMapping :: rest => some ([], rest)
  | fuel + 1, .comma :: rest => mapped? fuel rest
  | _, _ => none

end

private def root? (tokens : List Token) : Option (Yaml × List Token) :=
  node? (2 * tokens.length + 2) tokens

private def isBound : Token → Bool
  | .documentStart | .documentEnd => true
  | _ => false

-- The tree of the one document that the tokens make. Its end may be marked any
-- number of times, its beginning only once.
def ofTokens? (tokens : List Token) : Option Yaml := do
  let (root, rest) ←
    match tokens with
    | [] => some (void, [])
    | .documentStart :: rest =>
      if rest.head?.all isBound then some (void, rest) else root? rest
    | tokens => root? tokens
  if rest.all (· = .documentEnd) then some root else none

-- Reads one document. Anchors, tags, directives and blocks of literal text are no
-- part of the notation.
def parse? (text : Text) : Option Yaml :=
  if text.all isReadable then (Layout.tokens? (unifyBreaks text)).bind ofTokens? else none

end Referencing.Yaml
