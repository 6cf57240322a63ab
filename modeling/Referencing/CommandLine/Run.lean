import Referencing.CommandLine.Report
import Referencing.Loading
import Referencing.Style.Bundled

namespace Referencing.CommandLine

open Text Markup Citation Loading

-- Why a run came to nothing although the command line was well formed.
inductive Problem
  | style (path : Text)
  | library (path : Text)
  | document (path : Text)
  | unknownStyle (name : Text)
  | anomalies (count : Nat)
  deriving DecidableEq, Repr

def Problem.message : Problem → Text
  | .style path => "failed to load style ".toList ++ path
  | .library path => "failed to load library ".toList ++ path
  | .document path => "failed to load document ".toList ++ path
  | .unknownStyle name =>
    "no style file or embedded style named ".toList ++ quoted name ++ " (embedded: ".toList ++
      join [',', ' '] (Style.bundled.map (·.1)) ++ [')']
  | .anomalies count => ofNat count ++ " template anomalies".toList

-- How a run ends. A command line that is not well formed is a matter of usage.
inductive Outcome
  | done (output : Text)
  | failed (output : Text) (problem : Problem)
  | usage
  deriving DecidableEq, Repr

-- A file that is there is a style file, even under the name of a bundled style.
def resolveStyle (files : Text → Content) (name : Option Text) : Except Problem (Text × Style) :=
  let named (name : Text) : Except Problem (Text × Style) :=
    match Style.named? name with
    | some style => .ok (name, style)
    | none => .error (.unknownStyle name)
  match name with
  | none => named Style.defaultName
  | some path =>
    match files path with
    | .error .missing => named path
    | content =>
      match loadStyle path content with
      | .ok style => .ok (fileName path, style)
      | .error _ => .error (.style path)

private def check (styleName : Text) (style : Style) : Outcome :=
  let diagnostics := (CompiledStyle.ofStyle style).diagnostics
  let output := checkLines styleName diagnostics
  if diagnostics = [] then .done output else .failed output (.anomalies diagnostics.length)

def loadAs {α : Type} (problem : Problem) (result : Except Failure α) : Except Problem α :=
  match result with
  | .ok value => .ok value
  | .error _ => .error problem

def report (files : Text → Content) (arguments : Arguments) (styleName : Text)
    (style : Style) : Except Problem Text := do
  let library ← loadAs (.library arguments.library)
    (loadLibrary arguments.library (files arguments.library))
  let document ←
    match arguments.document with
    | none => .ok none
    | some path => (loadAs (.document path) (loadDocument path (files path))).map some
  let source := Source.make style library
  if arguments.json then
    let found := findings source document .plain arguments
    .ok (Json.pretty 0 (structured styleName library.size document.isSome found) ++ ['\n'])
  else
    .ok (readable styleName document.isSome (findings source document arguments.format arguments))

def run (files : Text → Content) (arguments : List Text) : Outcome :=
  match Arguments.parse? arguments with
  | none => .usage
  | some arguments =>
    match resolveStyle files arguments.style with
    | .error problem => .failed [] problem
    | .ok (styleName, style) =>
      if arguments.check then check styleName style
      else
        match report files arguments styleName style with
        | .ok output => .done output
        | .error problem => .failed [] problem

-- The files that a run may look at.
def paths (arguments : List Text) : List Text :=
  match Arguments.parse? arguments with
  | none => []
  | some arguments => arguments.library :: arguments.style.toList ++ arguments.document.toList

-- The line that reports a problem.
def Problem.line (problem : Problem) : Text :=
  "Error: ".toList ++ problem.message

def Outcome.code : Outcome → Nat
  | .done _ => 0
  | .failed .. => 1
  | .usage => 2

def Outcome.output : Outcome → Text
  | .done output => output
  | .failed output _ => output
  | .usage => []

def Outcome.error : Outcome → Text
  | .failed _ problem => problem.line
  | _ => []

end Referencing.CommandLine
