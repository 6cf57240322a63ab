import Referencing.CommandLine.Run

namespace Referencing

open Loading

private def usage : String :=
  "usage: -l LIBRARY [-s STYLE] [-d DOCUMENT] [-f FORMAT] " ++
    "[--bib] [--cite] [--json] [--check]"

private def readFailure : IO.Error → Failure
  | .inappropriateType .. => .isDirectory
  | _ => .missing

private def readContent (path : Text) : IO Content := do
  try
    return .ok (← IO.FS.readBinFile (String.ofList path))
  catch problem =>
    return .error (readFailure problem)

private def readAll : List Text → IO (List (Text × Content))
  | [] => return []
  | path :: rest => do
    let content ← readContent path
    return (path, content) :: (← readAll rest)

end Referencing

def main (arguments : List String) : IO UInt32 := do
  let arguments := arguments.map String.toList
  let contents ← Referencing.readAll (Referencing.CommandLine.paths arguments)
  let files (path : Referencing.Text) : Referencing.Loading.Content :=
    (contents.lookup path).getD (.error .missing)
  let outcome := Referencing.CommandLine.run files arguments
  IO.print (String.ofList outcome.output)
  if outcome.code = 2 then
    IO.eprintln Referencing.usage
  else if outcome.code = 1 then
    IO.eprintln (String.ofList outcome.error)
  return outcome.code.toUInt32
