import GameLogs.Environment
import GameLogs.Script
namespace GameLogs

/-! The command line.

The first argument names a program, and the others are its arguments.  The store is kept in memory
and begins empty; the connection settings name the database.
-/

def Script.ofName? (name : String) : Option Script :=
  [("consolidate", Script.consolidate), ("rename", .rename), ("indexes", .buildIndexes),
    ("sample", .sample), ("survey", .survey)].lookup name

def Connection.variableNames : List String :=
  ["MONGO_URI", "MONGO_USER", "MONGO_PASSWORD", "MONGO_HOST", "MONGO_PORT", "MONGO_AUTH_SOURCE",
    "MONGO_DATABASE"]

namespace CommandLine

def connection : IO Connection := do
  let environment ← Connection.variableNames.filterMapM fun name => do
    return (← IO.getEnv name).map fun value => (name, value)
  let settings ← try IO.FS.readFile ".env" catch _ => pure ""
  return Connection.read environment settings

def print (notices : List Notice) : IO Unit := do
  (← IO.getStdout).putStr (Notice.printed .output notices)
  (← IO.getStderr).putStr (Notice.printed .errors notices)

def writeFiles (files : FileTree) : IO Unit :=
  files.forM fun entry =>
    match entry.2 with
    | .directory => IO.FS.createDirAll entry.1.text
    | .file content => IO.FS.writeFile entry.1.text content

/-- Runs a program; the exit code of the process. -/
def run (script : Script) (arguments : List String) : IO UInt32 := do
  let invocation : Invocation := {
    arguments
    connectionFault? := none
    databaseName := (← connection).database
    setting := .standard }
  let outcome := (script.run invocation).run ⟨.empty, [], 0⟩
  print outcome.notices
  writeFiles outcome.state.files
  match outcome.result with
  | .ok code => return UInt32.ofNat code
  | .error error =>
      IO.eprintln error.text
      return 1

def start (arguments : List String) : IO UInt32 :=
  match arguments with
  | name :: rest =>
      match Script.ofName? name with
      | some script => run script rest
      | none => do
          IO.eprintln s!"unknown program {name}"
          return 1
  | [] => do
      IO.eprintln "a program is to be named: consolidate, rename, indexes, sample or survey"
      return 1

end CommandLine
end GameLogs

def main (arguments : List String) : IO UInt32 := GameLogs.CommandLine.start arguments
