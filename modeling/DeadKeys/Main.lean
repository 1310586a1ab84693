import DeadKeys.Player.Outcome

/-!
# The program

Reads the files that a request names and prints the outcome of the request.
-/

namespace DeadKeys.Player

/-- Reads a file as text. -/
def readFile (path : String) : IO (Except ReadError String) := do
  try
    let bytes ← IO.FS.readBinFile path
    match String.fromUTF8? bytes with
    | some text => return .ok text
    | none => return .error .notUtf8
  catch
    | .noFileOrDirectory .. => return .error .notFound
    | error => return .error (.other (toString error))

/-- The files of a list of paths, as they are now. -/
def readFiles (paths : List String) : IO Files := do
  let contents ← paths.mapM fun path => return (path, ← readFile path)
  return fun path => (contents.lookup path).getD (.error .notFound)

end DeadKeys.Player

open DeadKeys.Player in
/-- Answers the arguments with an exit code. -/
def main (arguments : List String) : IO UInt32 := do
  let request := Request.parse arguments
  let outcome := request.outcome (← readFiles request.paths)
  for record in outcome.records.filter request.shows do
    IO.eprintln record.text
  for line in outcome.value.printed do
    IO.println line
  for line in outcome.value.complaints do
    IO.eprintln line
  return outcome.value.code
