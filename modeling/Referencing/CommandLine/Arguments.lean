import Referencing.Markup.Export

namespace Referencing.CommandLine

open Text Markup

-- What the command line asks for.
structure Arguments where
  -- A style file or the name of a bundled style.
  style : Option Text
  library : Text
  document : Option Text
  format : Format
  bibliography : Bool
  citations : Bool
  json : Bool
  check : Bool
  deriving DecidableEq, Repr

inductive ValueOption
  | style
  | library
  | document
  | format
  deriving DecidableEq, Repr

inductive FlagOption
  | bibliography
  | citations
  | json
  | check
  deriving DecidableEq, Repr

-- The options given so far, latest first.
structure Given where
  values : List (ValueOption × Text) := []
  flags : List FlagOption := []

private def longValue? (name : Text) : Option ValueOption :=
  List.lookup name [("style".toList, .style), ("library".toList, .library),
    ("document".toList, .document), ("format".toList, .format)]

private def longFlag? (name : Text) : Option FlagOption :=
  List.lookup name [("bib".toList, .bibliography), ("cite".toList, .citations),
    ("json".toList, .json), ("check".toList, .check)]

private def shortValue? : Char → Option ValueOption
  | 's' => some .style
  | 'l' => some .library
  | 'd' => some .document
  | 'f' => some .format
  | _ => none

private def formatNamed? (name : Text) : Option Format :=
  List.lookup name [("plain".toList, .plain), ("html".toList, .html), ("rtf".toList, .rtf),
    ("raw".toList, .raw)]

-- Paths are not empty, and there are four formats.
private def isValue : ValueOption → Text → Bool
  | .style, _ => true
  | .library, value => value ≠ []
  | .document, value => value ≠ []
  | .format, value => (formatNamed? value).isSome

-- An option is given once.
def Given.addValue (given : Given) (option : ValueOption) (value : Text) : Option Given :=
  if isValue option value && (given.values.lookup option).isNone then
    some { given with values := (option, value) :: given.values }
  else none

def Given.addFlag (given : Given) (flag : FlagOption) : Option Given :=
  if given.flags.contains flag then none else some { given with flags := flag :: given.flags }

-- How one argument begins.
private inductive Shape
  | separator
  | value (option : ValueOption) (attached : Option Text)
  | flag (flag : FlagOption)
  | unknown

private def shapeOf : Text → Shape
  | ['-', '-'] => .separator
  | '-' :: '-' :: rest =>
    let name := rest.takeWhile (· ≠ '=')
    let attached := (cut? '=' rest).map (·.2)
    match longValue? name, longFlag? name, attached with
    | some option, _, _ => .value option attached
    | none, some flag, none => .flag flag
    | none, _, _ => .unknown
  | '-' :: c :: rest =>
    let attached := if rest.head? = some '=' then rest.tail else rest
    (shortValue? c).elim .unknown fun option =>
      .value option (if rest = [] then none else some attached)
  | _ => .unknown

-- A value of its own does not begin like an option.
private def looksLikeOption (argument : Text) : Bool :=
  argument.head? = some '-' && argument ≠ ['-']

private def collect (given : Given) : List Text → Option Given
  | [] => some given
  | argument :: rest =>
    match shapeOf argument, rest with
    | .separator, [] => some given
    | .flag flag, rest => (given.addFlag flag).bind (collect · rest)
    | .value option (some value), rest => (given.addValue option value).bind (collect · rest)
    | .value option none, value :: rest =>
      if looksLikeOption value then none
      else (given.addValue option value).bind (collect · rest)
    | _, _ => none

-- Without a choice both the citations and the bibliography are shown.
def Given.finish (given : Given) : Option Arguments :=
  let flag (option : FlagOption) : Bool := given.flags.contains option
  let neither := !flag .bibliography && !flag .citations
  (given.values.lookup .library).map fun library =>
    { style := given.values.lookup .style
      library := library
      document := given.values.lookup .document
      format := ((given.values.lookup .format).bind formatNamed?).getD .plain
      bibliography := neither || flag .bibliography
      citations := neither || flag .citations
      json := flag .json
      check := flag .check }

-- The arguments of a command line, if they are well formed.
def Arguments.parse? (arguments : List Text) : Option Arguments :=
  (collect {} arguments).bind Given.finish

end Referencing.CommandLine
