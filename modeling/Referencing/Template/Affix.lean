import Referencing.Template.Diagnostic
import Referencing.Template.Token

namespace Referencing.Template

open Text

-- A piece of what stands before or after a field. What a marker prints is kept with
-- its field.
inductive Part
  | text (run : Text)
  | dependent
  | plural
  deriving DecidableEq, Repr

abbrev Affix := List Part

namespace Affix

-- An empty text is none, and a text after another one belongs to it.
def pushText (affix : Affix) (run : Text) : Affix :=
  if run = [] then affix
  else
    match affix.getLast? with
    | some (.text last) => affix.dropLast ++ [.text (last ++ run)]
    | _ => affix ++ [.text run]

def pushMarker (affix : Affix) (marker : Part) : Affix :=
  affix ++ [marker]

-- The text parts alone.
def literal (affix : Affix) : Text :=
  affix.flatMap fun
    | .text run => run
    | _ => []

def hasMarker (affix : Affix) (marker : Part) : Bool :=
  affix.contains marker

-- The markers replaced by the texts chosen for them.
def resolve (dependent plural : Text) (affix : Affix) : Text :=
  affix.flatMap fun
    | .text run => run
    | .dependent => dependent
    | .plural => plural

end Affix

inductive Side
  | pre
  | post
  deriving DecidableEq, Repr

-- A field of a template with the text printed around it. A dependent marker prints its
-- text if the neighbouring field is there and the alternative otherwise; a plural one
-- follows the plural flag of its own field.
structure FieldSpec where
  pre : Affix := []
  post : Affix := []
  dependentPre : Option Text := none
  dependentPreAlternative : Option Text := none
  dependentPost : Option Text := none
  dependentPostAlternative : Option Text := none
  singular : Option Text := none
  plural : Option Text := none
  deriving DecidableEq, Repr

namespace FieldSpec

def affix (spec : FieldSpec) : Side → Affix
  | .pre => spec.pre
  | .post => spec.post

def dependent (spec : FieldSpec) : Side → Option Text
  | .pre => spec.dependentPre
  | .post => spec.dependentPost

def alternative (spec : FieldSpec) : Side → Option Text
  | .pre => spec.dependentPreAlternative
  | .post => spec.dependentPostAlternative

def setAffix (spec : FieldSpec) (side : Side) (affix : Affix) : FieldSpec :=
  match side with
  | .pre => { spec with pre := affix }
  | .post => { spec with post := affix }

def setDependent (spec : FieldSpec) (side : Side) (primary : Text) (alternative : Option Text) :
    FieldSpec :=
  match side with
  | .pre => { spec with dependentPre := some primary, dependentPreAlternative := alternative }
  | .post => { spec with dependentPost := some primary, dependentPostAlternative := alternative }

def setPlural (spec : FieldSpec) (one many : Text) : FieldSpec :=
  { spec with singular := some one, plural := some many }

-- What the dependent marker of a side prints.
def dependentText (spec : FieldSpec) (side : Side) (neighbour : Bool) : Text :=
  (if neighbour then spec.dependent side else spec.alternative side).getD []

-- What the plural marker prints.
def pluralText (spec : FieldSpec) (isPlural : Bool) : Text :=
  (if isPlural then spec.plural else spec.singular).getD []

-- A side with its markers replaced.
def resolve (spec : FieldSpec) (side : Side) (neighbour isPlural : Bool) : Text :=
  (spec.affix side).resolve (spec.dependentText side neighbour) (spec.pluralText isPlural)

end FieldSpec

-- How far a side of a field has been read.
structure Reading where
  spec : FieldSpec
  affix : Affix := []
  diagnostics : List Diagnostic := []

namespace Reading

def addText (reading : Reading) (run : Text) : Reading :=
  { reading with affix := reading.affix.pushText run }

def report (reading : Reading) (diagnostic : Diagnostic) : Reading :=
  { reading with diagnostics := reading.diagnostics ++ [diagnostic] }

-- Reads a token that was written in some way. Each side has one dependent marker, and
-- both together one plural marker; another one is text.
def add (field raw : Text) (side : Side) (reading : Reading) (kind : TokenKind) (written : Text) :
    Reading :=
  match kind with
  | .text run => reading.addText run
  | .escaped body => reading.addText body
  | .unterminated marker =>
    (reading.addText [marker]).report
      (if marker = '%' then .unterminatedDependent raw else .unterminatedPlural raw)
  | .dependent primary alternative =>
    if reading.spec.dependent side = none then
      { reading with
        spec :=
          reading.spec.setDependent side (without tick primary) (alternative.map (without tick))
        affix := reading.affix.pushMarker .dependent }
    else (reading.addText (without tick written)).report (.duplicateMarker field .dependent)
  | .plural one many =>
    if reading.spec.singular = none && reading.spec.plural = none then
      { reading with
        spec := reading.spec.setPlural (without tick one) (without tick many)
        affix := reading.affix.pushMarker .plural }
    else (reading.addText (without tick written)).report (.duplicateMarker field .plural)

def addToken (field raw : Text) (side : Side) (reading : Reading) (token : Token) : Reading :=
  reading.add field raw side token.kind (slice token.start token.stop raw)

end Reading

namespace FieldSpec

def readSide (field : Text) (side : Side) (spec : FieldSpec) (raw : Text) :
    FieldSpec × List Diagnostic :=
  let reading := (lex .affix raw).foldl (Reading.addToken field raw side) { spec := spec }
  (reading.spec.setAffix side reading.affix, reading.diagnostics)

-- The second side is added to what the first one has come to.
def read (field before after : Text) : FieldSpec × List Diagnostic :=
  let (spec, onPre) := readSide field .pre {} before
  let (spec, onPost) := readSide field .post spec after
  (spec, onPre ++ onPost)

end FieldSpec

end Referencing.Template
