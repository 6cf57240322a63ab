import Referencing.Bibliography
import Referencing.Citation.Document
import Referencing.CommandLine.Arguments
import Referencing.Data.Json.Printer
import Referencing.Text.Basic

namespace Referencing.CommandLine

open Text Markup Citation

-- The document to show, or else one citation of every resource.
def citationsFor (library : Library) (document : Option Document) : Document :=
  document.getD ⟨library.resources.map fun resource => { id := resource.id }, []⟩

-- The citations and entries that a report shows.
structure Findings where
  citations : Option Output
  entries : Option (List Bibliography.Entry)

-- Citations come first, so that the entries have the letters they assigned.
def findings (source : Source) (document : Option Document) (format : Format)
    (arguments : Arguments) : Findings :=
  let (session, citations) :=
    if arguments.citations then
      let shown := citationsFor source.library document
      let (session, output) := renderDocument source format shown {}
      (session, some output)
    else ({}, none)
  let entries :=
    if arguments.bibliography then some (Bibliography.render source format session).2 else none
  ⟨citations, entries⟩

private def line (text : Text) : Text :=
  text ++ ['\n']

private def indented (text : Text) : Text :=
  line (' ' :: ' ' :: text)

private def readableCitations (isDocument : Bool) (output : Output) : Text :=
  let shown :=
    if isDocument then line "DOCUMENT:".toList ++ (lines output.text).flatMap indented
    else
      line "CITATIONS:".toList ++
        output.citations.flatMap fun cited => indented ('[' :: cited.id ++ ']' :: ' ' :: cited.text)
  shown ++ ['\n']

private def readableEntries (entries : List Bibliography.Entry) : Text :=
  line "BIBLIOGRAPHY:".toList ++ entries.flatMap fun entry => indented entry.text

-- The report for a reader.
def readable (styleName : Text) (isDocument : Bool) (found : Findings) : Text :=
  '\n' :: line ("=== ".toList ++ styleName ++ " ===".toList) ++ ['\n'] ++
    found.citations.elim [] (readableCitations isDocument) ++
    found.entries.elim [] readableEntries

private def entryJson (entry : Bibliography.Entry) : Json :=
  Json.object [("id".toList, Json.text entry.id), ("text".toList, Json.text entry.text)]

private def citedJson (cited : Cited) : Json :=
  Json.object ([("id".toList, Json.text cited.id), ("text".toList, Json.text cited.text),
    ("variant".toList, Json.text cited.variant.name)] ++
    cited.note.toList.map fun number => ("note".toList, Json.natural number))

private def citationsJson (isDocument : Bool) (output : Output) : List (Text × Json) :=
  [("citations".toList, Json.array (output.citations.map citedJson)),
    ("errors".toList, Json.array (output.unknown.map fun id => Json.text (unknownMessage id)))] ++
    (if isDocument then [("text".toList, Json.text output.text)] else [])

-- The report for a program.
def structured (styleName : Text) (size : Nat) (isDocument : Bool) (found : Findings) : Json :=
  Json.object ([("style".toList, Json.text styleName), ("items".toList, Json.natural size)] ++
    found.citations.elim [] (citationsJson isDocument) ++
    found.entries.elim [] fun entries =>
      [("bibliography".toList,
        Json.object [("entries".toList, Json.array (entries.map entryJson))])])

-- What is odd about the templates of a style, one line each.
def checkLines (styleName : Text) (diagnostics : List (Text × Template.Diagnostic)) : Text :=
  if diagnostics = [] then line (styleName ++ ": all templates compiled cleanly.".toList)
  else
    diagnostics.flatMap fun (label, diagnostic) =>
      line (styleName ++ ':' :: ' ' :: label ++ ':' :: ' ' :: diagnostic.message)

end Referencing.CommandLine
