import Referencing.Data.Json.Plain
import Referencing.Data.Json.Reader
import Referencing.Data.Yaml.Reader
import Referencing.Record.Document
import Referencing.Record.Library
import Referencing.Style.Basic

namespace Referencing.Loading

open Text

inductive Encoding
  | json
  | yaml
  deriving DecidableEq, Repr

-- Why a file could not be loaded.
inductive Failure
  | missing
  | isDirectory
  | notText
  | malformed (kind : Encoding)
  deriving DecidableEq, Repr

def Encoding.label : Encoding → Text
  | .json => "JSON".toList
  | .yaml => "YAML".toList

def Failure.message : Failure → Text
  | .missing => "failed to read input: No such file or directory (os error 2)".toList
  | .isDirectory => "failed to read input: Is a directory (os error 21)".toList
  | .notText => "failed to read input: stream did not contain valid UTF-8".toList
  | .malformed kind => "failed to parse ".toList ++ kind.label

-- The last part of a path.
def fileName (path : Text) : Text :=
  ((split '/' path).getLast?).getD []

-- What follows the last full stop of a file name, unless the name begins with
-- it.
def extension? (path : Text) : Option Text :=
  let name := fileName path
  let ending := (name.reverse.takeWhile (· ≠ '.')).reverse
  if ending.length + 1 < name.length then some ending else none

-- Only the extension `json`, in lower case, stands for JSON.
def encodingOf (path : Text) : Encoding :=
  if extension? path = some "json".toList then .json else .yaml

-- The content of a file, if it is there.
abbrev Content := Except Failure ByteArray

def decode (content : Content) : Except Failure Text := do
  match String.fromUTF8? (← content) with
  | some text => .ok text.toList
  | none => .error .notText

private def orMalformed {α : Type} (kind : Encoding) (result : Option α) : Except Failure α :=
  match result with
  | some value => .ok value
  | none => .error (.malformed kind)

def readJson? {α : Type} (form : Form α) (text : Text) : Option α :=
  (Json.parse? text).bind (form.read .json)

def readYaml? {α : Type} (form : Form α) (text : Text) : Option α :=
  (Yaml.parse? text).bind (form.read .yaml)

-- The same by way of plain data, which a document is turned into before it is
-- read: no key comes twice, nothing is nested too deeply, and in YAML the scalars
-- have types.
def readPlainJson? {α : Type} (form : Form α) (text : Text) : Option α :=
  ((Json.parse? text).bind (Json.plain? Json.depthLimit)).bind (form.read .json)

def readPlainYaml? {α : Type} (form : Form α) (text : Text) : Option α :=
  ((Yaml.parse? text).bind (Yaml.typed? Yaml.depthLimit)).bind (form.read .typedYaml)

def load {α : Type} (form : Form α) (path : Text) (content : Content) : Except Failure α := do
  let text ← decode content
  match encodingOf path with
  | .json => orMalformed .json (readJson? form text)
  | .yaml => orMalformed .yaml (readYaml? form text)

def loadStyle (path : Text) (content : Content) : Except Failure Style :=
  load Style.form path content

def loadLibrary (path : Text) (content : Content) : Except Failure Library :=
  load Library.form path content

def loadDocument (path : Text) (content : Content) : Except Failure Document := do
  let text ← decode content
  match encodingOf path with
  | .json => orMalformed .json (readPlainJson? Document.form text)
  | .yaml => orMalformed .yaml (readPlainYaml? Document.form text)

end Referencing.Loading
