import Referencing.Text.Printable

namespace Referencing.Template

open Text

inductive MarkerKind
  | dependent
  | plural
  deriving DecidableEq, Repr

-- What was odd about a template. Nothing here stops it from being compiled:
-- the text concerned is taken literally or left out.
inductive Diagnostic
  | noRecognizedField
  | unterminatedDependent (affix : Text)
  | unterminatedPlural (affix : Text)
  | duplicateMarker (field : Text) (kind : MarkerKind)
  | duplicateField (field : Text)
  | ignoredLeadingText (text : Text)
  | discardedIndependent (text : Text)
  | emptyIndependentPair (opening closing : Text)
  deriving DecidableEq, Repr

def MarkerKind.label : MarkerKind → Text
  | .dependent => "dependent".toList
  | .plural => "singular/plural".toList

def Diagnostic.message : Diagnostic → Text
  | .noRecognizedField => "template references no recognized field".toList
  | .unterminatedDependent affix =>
    "unterminated dependent marker in ".toList ++ quoted affix
  | .unterminatedPlural affix =>
    "unterminated singular/plural marker in ".toList ++ quoted affix
  | .duplicateMarker field kind =>
    "field ".toList ++ field ++ " has more than one ".toList ++ kind.label ++
      " marker; extra marker kept as text".toList
  | .duplicateField field =>
    "field ".toList ++ field ++ " appears more than once; the last definition wins".toList
  | .ignoredLeadingText text =>
    "text ".toList ++ quoted text ++ " before the first field was ignored".toList
  | .discardedIndependent text =>
    "independent text ".toList ++ quoted text ++ " was discarded".toList
  | .emptyIndependentPair opening closing =>
    "independent pair ".toList ++ quoted opening ++ ['/'] ++ quoted closing ++
      " encloses no field".toList

end Referencing.Template
