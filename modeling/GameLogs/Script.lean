import GameLogs.Consolidation.Run
import GameLogs.Renaming
import GameLogs.Sample
import GameLogs.Survey.Report
namespace GameLogs

/-! The programs that a user starts.

A program connects, does its work and closes the connection whatever the work comes to.  It ends
with an exit code, or with the error that stopped it.
-/

inductive Script where
  | consolidate
  | rename
  | buildIndexes
  | sample
  | survey
deriving DecidableEq, Repr

/-- What a program is started with, and how the server and its client behave. -/
structure Invocation where
  arguments : List String
  /-- The fault of making a client for the server's address. -/
  clientFault? : Option Fault := none
  /-- The fault that answers the first request to the server. -/
  connectionFault? : Option Fault
  databaseName : String
  /-- The fault of asking a client for the database of a name. -/
  databaseFault? : String → Option Fault := fun _ => none
  setting : Setting
  hindrances : Sample.Hindrances := .none

namespace Invocation

/-- Why the server does not answer: there is no client to ask it, or it answers with a fault. -/
def silence? (invocation : Invocation) : Option Fault :=
  invocation.clientFault?.or invocation.connectionFault?

/-- Why the database of the invocation cannot be had from a client. -/
def refusal? (invocation : Invocation) : Option Fault :=
  invocation.databaseFault? invocation.databaseName

end Invocation

namespace Script

def success : Nat := 0

def failure : Nat := 1

/-- Whether something has been had from the server or its client.  Faults of another kind than the connection's
are not expected. -/
def ping (fault? : Option Fault) (refusal : String → Notice) : Job Workspace Bool :=
  match fault? with
  | none => pure true
  | some fault =>
      if fault.kind.isConnection then do
        Job.tell (refusal fault.message)
        return false
      else Job.stop (.store fault)

/-- Connects to the server and asks for the database.  A client that cannot give the database stays open. -/
def connect (invocation : Invocation) : Job Workspace Bool := do
  Job.tell .connecting
  let answered ← ping (invocation.silence?.or invocation.refusal?) .notConnected
  if answered then Job.tell .connected
  return answered

def close : Job Workspace Unit :=
  Job.modify fun workspace => { workspace with closed := workspace.closed + 1 }

/-- The work of a consolidation.  An error is shown to the user and sets the exit code. -/
def consolidateAndTell (setting : Setting) : Job Workspace Nat := do
  let result ← Job.attempt do
    let _ ← Workspace.onDatabase (Database.consolidate setting)
    Job.tell (.spacedHeading .consolidated)
  match result with
  | .ok () => return success
  | .error error =>
      Job.tell (.consolidationFailed error.text)
      return failure

def runConsolidate (invocation : Invocation) : Job Workspace Nat := do
  Job.tellAll [.heading .consolidation, .databaseName invocation.databaseName]
  if ← connect invocation then
    let code ← consolidateAndTell invocation.setting
    Job.tell .closing
    close
    Job.tell .closed
    return code
  else return failure

/-- Whether a renaming is called incomplete: the reason of its failure has a text. -/
def incomplete (report : RenamingReport) : Bool := (report.failure?.getD "") != ""

def runRename (invocation : Invocation) : Job Workspace Nat := do
  let fields := Renaming.standard
  Job.tell (.heading (.renaming fields.former fields.current))
  if ← connect invocation then
    let rules := invocation.setting.failures.of Schema.target
    let report ← (Workspace.onCollection Schema.target (fields.perform rules)).andFinally close
    Job.tell .rule
    if incomplete report then
      Job.tellAll [.renameIncomplete, .rule]
      return failure
    else
      Job.tellAll [.renameComplete, .rule]
      return success
  else return failure

def buildIndexesAndTell (invocation : Invocation) : Job Workspace IndexReport := do
  Job.stopOn invocation.refusal?
  let rules := invocation.setting.failures.of Schema.target
  let requests := IndexRequest.configured
  Job.tell .creatingIndexes
  let report ← Workspace.onCollection Schema.target (GameLogs.buildIndexes rules requests)
  Job.tell (.spacedHeading (.indexesBuilt report.built.length requests.length))
  return report

def runBuildIndexes (invocation : Invocation) : Job Workspace Nat := do
  Job.tell (.heading .indexSetup)
  if ← ping invocation.silence? .notConnectedForIndexes then
    let report ← (buildIndexesAndTell invocation).andFinally close
    return if report.failed = [] then success else failure
  else
    Job.tell .noDatabase
    return failure

/-- The limit that an argument gives, if there is one. -/
def limit (argument? : Option String) (standard : Int) : Except Error Int :=
  match argument? with
  | none => .ok standard
  | some text => (Text.readInteger text).mapError .integer

def takeSample (invocation : Invocation) (game : String) (limit : Int) : Job Workspace (Option FilePath) := do
  Job.stopOn invocation.refusal?
  Sample.write invocation.setting.failures Schema.target (.string game) limit
    (FilePath.ofText Sample.standardDirectory) invocation.hindrances

/-- A sample is taken without asking the server for an answer first. -/
def runSample (invocation : Invocation) : Job Workspace Nat :=
  match invocation.arguments with
  | [] => do
      Job.tell .sampleUsage
      return failure
  | game :: rest => do
      let limit ← Job.ofExcept (limit rest.head? Sample.standardLimit)
      Job.stopOn invocation.clientFault?
      let _ ← (takeSample invocation game limit).andFinally close
      return success

def runSurvey (invocation : Invocation) : Job Workspace Nat := do
  let limit ← Job.ofExcept (limit invocation.arguments.head? 0)
  if ← connect invocation then
    let survey := Workspace.onDatabase (Database.survey invocation.setting.failures limit)
    let _ ← survey.andFinally close
    return success
  else return failure

def run (script : Script) (invocation : Invocation) : Job Workspace Nat :=
  match script with
  | .consolidate => runConsolidate invocation
  | .rename => runRename invocation
  | .buildIndexes => runBuildIndexes invocation
  | .sample => runSample invocation
  | .survey => runSurvey invocation

end Script
end GameLogs
