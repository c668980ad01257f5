import Crosstab.CommandLine.Outcome
import Crosstab.Engine.Archive
import Crosstab.Engine.Execution
import Crosstab.Engine.Location

/-!
# The program

Reads the command line, the environment and the database, performs the command, prints what it
has to say and writes the database back. The file of a database is an archive; one that does not
exist is created empty.
-/

namespace Crosstab.Main

open CommandLine (Environment Invocation)
open Engine (Catalog Location Path Place)

/-- The variables of the process, among those that count, and the assignments of the file `.env`. -/
def readEnvironment : IO Environment := do
  let file ← try IO.FS.readFile ".env" catch _ => pure ""
  let names := [Options.dialectVariable, Options.namingVariable, Options.databaseVariable]
  let mut environment := Environment.empty
  for name in names ++ Environment.mentioned file do
    if let some value ← IO.getEnv name then
      environment := environment.add name value
  return environment.addFile file

/-- The number of the error of reading a directory like a file. -/
def isDirectoryCode : UInt32 := 21

/-- What stands at a path; a file that is to be created is created. -/
def findPlace (creates : Bool) (path : Path) : IO Place := do
  try
    let text ← IO.FS.readFile path.toText
    match Catalog.ofArchive? ((text.splitOn "\n").filter fun line => !line.isEmpty) with
    | some catalog => return .database catalog.main
    | none => return .foreign
  catch error =>
    match error with
    | .noFileOrDirectory _ _ _ =>
      if !creates then return .blocked
      try
        IO.FS.writeFile path.toText ""
        return .vacant
      catch _ => return .blocked
    | .inappropriateType _ code _ =>
      return if code = isDirectoryCode then .directory else .unreachable
    | .invalidArgument _ _ _ => return .unreachable
    | _ => return .blocked

/-- What stands at the path of a mark, which is a directory that is made and removed again. -/
def findMark (path : Path) : IO Place := do
  try
    IO.FS.createDir path.toText
    IO.FS.removeDir path.toText
    return .vacant
  catch error =>
    match error with
    | .alreadyExists _ _ _ => return .directory
    | _ => return .blocked

/-- The paths that have to be looked at to open a location, seen from a directory. -/
def pathsOf (directory : Path) : Location → List Path
  | .file _ reached use =>
    match use.model with
    | none => reached
    | some model => reached ++ .root :: directory :: Path.reached directory model
  | _ => []

/-- Opens the database that a text names, seen from a directory. -/
def load (directory : Path) (text : String) : IO (Except StoreError Catalog) := do
  match Location.ofText directory text with
  | .error cause => return .error (.engine cause)
  | .ok location =>
    let others ← (pathsOf directory location).mapM fun path =>
      return (path, ← findPlace false path)
    let places ← match location with
      | .file path _ use => do
        let mark ← if use.isMarked then findMark path.mark else pure .vacant
        pure ((path.mark, mark) :: (path, ← findPlace (use.mode = .creating) path) :: others)
      | _ => pure others
    let place (path : Path) : Place := (places.lookup path).getD .blocked
    return (location.connect directory text place).mapError StoreError.engine

/-- Writes a database to its file, where it may be written. -/
def save (catalog : Catalog) : IO Unit := do
  if let .file path .writable := catalog.medium then
    IO.FS.writeFile path (String.join (catalog.archive.map fun line => line ++ "\n"))

/-- Performs a command. -/
def perform (invocation : Invocation) : IO UInt32 := do
  let environment ← readEnvironment
  let directory := Path.ofText .root (toString (← IO.currentDir))
  let opened ← match invocation.opened? environment with
    | some text => load directory text
    | none => pure (.ok .empty)
  let outcome := invocation.outcome (fun _ => opened) environment
  IO.eprint outcome.errorOutput
  IO.print outcome.output
  if let some (_, catalog) := outcome.database then
    save catalog
  return outcome.code.toUInt32

end Crosstab.Main

open Crosstab in
/-- Runs the program. -/
def main (args : List String) : IO UInt32 := do
  match CommandLine.Invocation.read? args with
  | some invocation => Main.perform invocation
  | none =>
    IO.eprintln CommandLine.usage
    return 2
