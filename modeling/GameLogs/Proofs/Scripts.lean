import GameLogs.Script
namespace GameLogs

/-! How scripts end and what they close.

A script that begins badly changes nothing: its arguments are rejected, the server does not answer, or its
client cannot give the database and is left open.  Every other script does its work and closes the connection once,
however the work ends; its exit code or its error is read off what the work comes to.
-/

namespace Job

variable {State A B : Type} {job : Job State A} {next : A → Job State B} {before middle after : State}
  {value : A} {result : Except Error B} {error : Error} {notices : List Notice}

/-- How a job ends and what it leaves, whatever it tells. -/
def Ends (job : Job State A) (before : State) (result : Except Error A) (after : State) : Prop :=
  ∃ notices, job.run before = ⟨result, after, notices⟩

theorem Ends.bind (first : job.Ends before (.ok value) middle) (second : (next value).Ends middle result after) :
    (job >>= next).Ends before result after := by
  obtain ⟨earlier, ran⟩ := first
  obtain ⟨later, followed⟩ := second
  exact ⟨earlier ++ later, run_bind_of_ok ran followed⟩

theorem Ends.bind_error (failed : job.Ends before (.error error) after) :
    (job >>= next).Ends before (.error error) after := by
  obtain ⟨notices, ran⟩ := failed
  exact ⟨notices, run_bind_of_error ran⟩

theorem Ends.attempt {result : Except Error A} (ended : job.Ends before result after) :
    job.attempt.Ends before (.ok result) after := by
  obtain ⟨notices, ran⟩ := ended
  exact ⟨notices, by rw [run_attempt, ran]⟩

theorem ends_pure : (pure value : Job State A).Ends before (.ok value) before := ⟨_, rfl⟩

theorem ends_ofExcept {result : Except Error A} : (ofExcept result : Job State A).Ends before result before :=
  ⟨_, rfl⟩

theorem ends_stop : (stop error : Job State A).Ends before (.error error) before := ⟨_, rfl⟩

theorem ends_tellAll : (tellAll notices : Job State Unit).Ends before (.ok ()) before := ⟨_, rfl⟩

end Job

namespace Workspace

def closedOnce (workspace : Workspace) : Workspace := { workspace with closed := workspace.closed + 1 }

variable {A B : Type} {job : Job Workspace A} {next : A → Job Workspace B}

def KeepsOpen (job : Job Workspace A) : Prop := job.Respects fun before after => after.closed = before.closed

theorem KeepsOpen.bind (first : KeepsOpen job) (second : ∀ value, KeepsOpen (next value)) :
    KeepsOpen (job >>= next) :=
  Job.Respects.bind (fun _ _ _ earlier later => later.trans earlier) first second

theorem keepsOpen_of_readsOnly (unchanged : job.ReadsOnly) : KeepsOpen job := unchanged.respects fun _ => rfl

theorem keepsOpen_onDatabase {job : Job Database A} : KeepsOpen (onDatabase job) := fun _ => rfl

theorem keepsOpen_onCollection {name : String} {job : Job Collection A} : KeepsOpen (onCollection name job) :=
  keepsOpen_onDatabase

theorem keepsOpen_changeFiles {change : FileTree → Except Error (A × FileTree)} : KeepsOpen (changeFiles change) := by
  intro workspace
  simp only [changeFiles, Job.run_bind, Job.run_get, Outcome.andThen, Job.run_ofExcept]
  cases change workspace.files <;> rfl

theorem keepsOpen_stopOn {fault? : Option Fault} : KeepsOpen (Job.stopOn fault?) := by
  intro workspace
  cases fault? <;> rfl

end Workspace

namespace Script

open Workspace

variable {A : Type} {setting : Setting} {workspace : Workspace} {invocation : Invocation} {fault? : Option Fault}

inductive Work where
  | consolidate
  | rename
  | buildIndexes
  | sample (game : String) (limit : Int)
  | survey (limit : Int)

/-- What comes of a job that asks for the database first. -/
def given (refusal? : Option Fault) (result : Except Error A) : Except Error A :=
  match refusal? with
  | some fault => .error (.store fault)
  | none => result

theorem result_stopOn_bind {job : Job Workspace A} :
    ((Job.stopOn fault? >>= fun _ => job).run workspace).result = given fault? (job.run workspace).result := by
  cases fault? <;> rfl

namespace Work

/-- The exit code that the end of the work calls for, or the error that leaves the script. -/
def verdict (invocation : Invocation) (workspace : Workspace) : Work → Except Error Nat
  | .consolidate =>
      match ((Database.consolidate invocation.setting).run workspace.database).result with
      | .ok _ => .ok success
      | .error _ => .ok failure
  | .rename =>
      ((Renaming.standard.perform (invocation.setting.failures.of Schema.target)).run
        (workspace.database.collection Schema.target)).result.map fun report =>
          if report.failure? = none ∨ report.failure? = some "" then success else failure
  | .buildIndexes =>
      (given invocation.refusal? ((GameLogs.buildIndexes (invocation.setting.failures.of Schema.target)
        IndexRequest.configured).run (workspace.database.collection Schema.target)).result).map fun report =>
          if report.failed = [] then success else failure
  | .sample game limit =>
      (given invocation.refusal? ((Sample.write invocation.setting.failures Schema.target (.string game) limit
        (FilePath.ofText Sample.standardDirectory) invocation.hindrances).run workspace).result).map fun _ => success
  | .survey limit =>
      ((Database.survey invocation.setting.failures limit).run workspace.database).result.map fun _ => success

end Work

inductive Beginning where
  /-- No game is named. -/
  | unnamed
  /-- A limit is no number, or no client can be made for a sample. -/
  | refused (error : Error)
  | unanswered (fault : Fault)
  /-- The server has answered, and the client, which does not give the database, is never closed. -/
  | abandoned (fault : Fault)
  | connected (work : Work)

/-- What a script comes to that connects to the server and asks for the database before it does its work. -/
def connecting (invocation : Invocation) (work : Work) : Beginning :=
  match invocation.silence?, invocation.refusal? with
  | some fault, _ => .unanswered fault
  | none, some fault => .abandoned fault
  | none, none => .connected work

/-- Arguments are read before the server is asked.  A sample is taken without asking. -/
def beginning (script : Script) (invocation : Invocation) : Beginning :=
  match script with
  | .consolidate => connecting invocation .consolidate
  | .rename => connecting invocation .rename
  | .buildIndexes =>
      match invocation.silence? with
      | some fault => .unanswered fault
      | none => .connected .buildIndexes
  | .sample =>
      match invocation.arguments with
      | [] => .unnamed
      | game :: rest =>
          match limit rest.head? Sample.standardLimit, invocation.clientFault? with
          | .error error, _ => .refused error
          | .ok _, some fault => .refused (.store fault)
          | .ok limit, none => .connected (.sample game limit)
  | .survey =>
      match limit invocation.arguments.head? 0 with
      | .error error => .refused error
      | .ok limit => connecting invocation (.survey limit)

/-- How a script ends that has begun so, and what it leaves. -/
def Beginning.Concludes (invocation : Invocation) (workspace : Workspace) (job : Job Workspace Nat) :
    Beginning → Prop
  | .unnamed => job.Ends workspace (.ok failure) workspace
  | .refused error => job.Ends workspace (.error error) workspace
  | .unanswered fault | .abandoned fault =>
      job.Ends workspace (if fault.kind.isConnection then .ok failure else .error (.store fault)) workspace
  | .connected work => ∃ after, job.Ends workspace (work.verdict invocation workspace) after ∧
      after.closed = workspace.closed + 1

theorem Beginning.Concludes.afterTelling {beginning : Beginning} {job : Job Workspace Nat} {notices : List Notice}
    (concluded : beginning.Concludes invocation workspace job) :
    beginning.Concludes invocation workspace (Job.tellAll notices >>= fun _ => job) := by
  cases beginning with
  | connected work =>
      obtain ⟨after, ended, closed⟩ := concluded
      exact ⟨after, Job.ends_tellAll.bind ended, closed⟩
  | _ => exact Job.ends_tellAll.bind concluded

def reply : Option Fault → Except Error Bool
  | none => .ok true
  | some fault => if fault.kind.isConnection then .ok false else .error (.store fault)

theorem ends_ping {refusal : String → Notice} : (ping fault? refusal).Ends workspace (reply fault?) workspace := by
  cases fault? with
  | none => exact Job.ends_pure
  | some fault =>
      simp only [ping, reply]
      split
      case isTrue => exact Job.ends_tellAll.bind Job.ends_pure
      case isFalse => exact Job.ends_stop

theorem ends_connect : (connect invocation).Ends workspace (reply (invocation.silence?.or invocation.refusal?))
    workspace := by
  refine Job.ends_tellAll.bind ?_
  have asked := @ends_ping workspace (invocation.silence?.or invocation.refusal?) .notConnected
  cases replied : reply (invocation.silence?.or invocation.refusal?) with
  | error error => exact (replied ▸ asked).bind_error
  | ok reached =>
      refine (replied ▸ asked).bind ?_
      cases reached with
      | false => exact Job.ends_pure.bind Job.ends_pure
      | true => exact Job.ends_tellAll.bind Job.ends_pure

/-- A fault that is asked for decides how a script ends, whatever it would have done. -/
theorem ends_asking {ask : Job Workspace Bool} {job refuse : Job Workspace Nat} {fault : Fault}
    (asked : ask.Ends workspace (reply (some fault)) workspace)
    (refused : refuse.Ends workspace (.ok failure) workspace) :
    (ask >>= fun reached => if reached then job else refuse).Ends workspace
      (if fault.kind.isConnection then .ok failure else .error (.store fault)) workspace := by
  rw [reply] at asked
  split
  case isTrue connection =>
    rw [if_pos connection] at asked
    exact asked.bind refused
  case isFalse other =>
    rw [if_neg other] at asked
    exact asked.bind_error

theorem concludes_connecting {job : Job Workspace Nat} {work : Work}
    (worked : (Beginning.connected work).Concludes invocation workspace job) :
    (connecting invocation work).Concludes invocation workspace
      (connect invocation >>= fun reached => if reached then job else pure failure) := by
  have asked := @ends_connect workspace invocation
  rw [connecting]
  cases silent : invocation.silence? with
  | some fault =>
      rw [silent] at asked
      exact ends_asking asked Job.ends_pure
  | none =>
      rw [silent, Option.none_or] at asked
      cases refused : invocation.refusal? with
      | some fault =>
          rw [refused] at asked
          exact ends_asking asked Job.ends_pure
      | none =>
          rw [refused] at asked
          obtain ⟨after, ended, closed⟩ := worked
          exact ⟨after, asked.bind ended, closed⟩

/-- Work that ends with the closing of the connection, whether or not it has stopped. -/
theorem concludes_closing {job : Job Workspace A} {next : A → Job Workspace Nat} {code : A → Nat} {work : Work}
    (kept : KeepsOpen job) (result : (job.run workspace).result.map code = work.verdict invocation workspace)
    (told : ∀ value state, (next value).Ends state (.ok (code value)) state) :
    (Beginning.connected work).Concludes invocation workspace (job.andFinally close >>= next) := by
  have finished : (job.andFinally close).Ends workspace (job.run workspace).result
      (job.run workspace).state.closedOnce := ⟨_, Job.run_andFinally job _⟩
  refine ⟨(job.run workspace).state.closedOnce, ?_, congrArg (· + 1) (kept workspace)⟩
  -- The closing stands between the end of the work and what the script makes of it.
  rw [← result]
  cases ended : (job.run workspace).result with
  | error error => exact (ended ▸ finished).bind_error
  | ok value => exact (ended ▸ finished).bind (told value _)

theorem ends_close : close.Ends workspace (.ok ()) workspace.closedOnce := ⟨_, rfl⟩

/-- A consolidation that stops is told to the user, and the script goes on. -/
theorem ends_consolidateAndTell : ∃ code after,
    (consolidateAndTell invocation.setting).Ends workspace (.ok code) after ∧
      Work.consolidate.verdict invocation workspace = .ok code ∧ after.closed = workspace.closed := by
  rw [Work.verdict]
  rcases ran : (Database.consolidate invocation.setting).run workspace.database with
    ⟨error | summary, database, notices⟩
  · have stopped : (onDatabase (Database.consolidate invocation.setting)).Ends workspace (.error error)
        { workspace with database } := ⟨notices, by simp [onDatabase, ran]⟩
    refine ⟨failure, { workspace with database }, ?_, rfl, rfl⟩
    exact stopped.bind_error.attempt.bind (Job.ends_tellAll.bind Job.ends_pure)
  · have done : (onDatabase (Database.consolidate invocation.setting)).Ends workspace (.ok summary)
        { workspace with database } := ⟨notices, by simp [onDatabase, ran]⟩
    refine ⟨success, { workspace with database }, ?_, rfl, rfl⟩
    exact (done.bind Job.ends_tellAll).attempt.bind Job.ends_pure

theorem concludes_consolidate :
    (beginning .consolidate invocation).Concludes invocation workspace (runConsolidate invocation) := by
  refine Beginning.Concludes.afterTelling (concludes_connecting ?_)
  obtain ⟨code, middle, told, verdict, kept⟩ := @ends_consolidateAndTell workspace invocation
  refine ⟨middle.closedOnce, ?_, congrArg (· + 1) kept⟩
  rw [verdict]
  exact told.bind (Job.ends_tellAll.bind (ends_close.bind (Job.ends_tellAll.bind Job.ends_pure)))

theorem incomplete_iff {report : RenamingReport} :
    incomplete report = true ↔ ¬ (report.failure? = none ∨ report.failure? = some "") := by
  cases failed : report.failure? <;> simp [incomplete, failed]

theorem concludes_rename :
    (beginning .rename invocation).Concludes invocation workspace (runRename invocation) := by
  refine Beginning.Concludes.afterTelling (concludes_connecting ?_)
  refine concludes_closing keepsOpen_onCollection rfl fun report state => Job.ends_tellAll.bind ?_
  split
  case isTrue failed =>
    rw [if_neg (incomplete_iff.mp failed)]
    exact Job.ends_tellAll.bind Job.ends_pure
  case isFalse finished =>
    rw [if_pos (Classical.not_not.mp (mt incomplete_iff.mpr finished))]
    exact Job.ends_tellAll.bind Job.ends_pure

theorem keepsOpen_tellAll {notices : List Notice} : KeepsOpen (Job.tellAll notices) :=
  keepsOpen_of_readsOnly (Job.readsOnly_tellAll notices)

theorem keepsOpen_pure {value : A} : KeepsOpen (pure value) := keepsOpen_of_readsOnly (Job.readsOnly_pure value)

theorem keepsOpen_buildIndexesAndTell : KeepsOpen (buildIndexesAndTell invocation) :=
  keepsOpen_stopOn.bind fun _ => keepsOpen_tellAll.bind fun _ => keepsOpen_onCollection.bind fun _ =>
    keepsOpen_tellAll.bind fun _ => keepsOpen_pure

theorem result_buildIndexesAndTell : ((buildIndexesAndTell invocation).run workspace).result =
    given invocation.refusal? ((GameLogs.buildIndexes (invocation.setting.failures.of Schema.target)
      IndexRequest.configured).run (workspace.database.collection Schema.target)).result := by
  rw [buildIndexesAndTell, result_stopOn_bind]
  rcases built : (GameLogs.buildIndexes (invocation.setting.failures.of Schema.target)
    IndexRequest.configured).run (workspace.database.collection Schema.target) with ⟨_ | _, _, _⟩ <;>
    simp [onCollection, onDatabase, Database.on, built, Outcome.andThen]

theorem concludes_buildIndexes :
    (beginning .buildIndexes invocation).Concludes invocation workspace (runBuildIndexes invocation) := by
  rw [beginning]
  have asked := @ends_ping workspace invocation.silence? .notConnectedForIndexes
  cases silent : invocation.silence? with
  | some fault =>
      rw [silent] at asked
      rw [runBuildIndexes, silent]
      exact Job.ends_tellAll.bind (ends_asking asked (Job.ends_tellAll.bind Job.ends_pure))
  | none =>
      rw [silent] at asked
      have worked : (Beginning.connected .buildIndexes).Concludes invocation workspace
          ((buildIndexesAndTell invocation).andFinally close >>= fun report =>
            pure (if report.failed = [] then success else failure)) :=
        concludes_closing keepsOpen_buildIndexesAndTell (by rw [result_buildIndexesAndTell, Work.verdict])
          fun _ _ => Job.ends_pure
      obtain ⟨after, ended, closed⟩ := worked
      rw [runBuildIndexes, silent]
      exact ⟨after, Job.ends_tellAll.bind (asked.bind ended), closed⟩

theorem keepsOpen_writeFile {hindrances : Sample.Hindrances} {docs : List Document} {directory : FilePath}
    {game : String} : KeepsOpen (Sample.writeFile hindrances docs directory game) :=
  keepsOpen_changeFiles.bind fun _ => keepsOpen_stopOn.bind fun _ => keepsOpen_changeFiles.bind fun _ =>
    KeepsOpen.bind (fun _ => rfl) fun _ => keepsOpen_stopOn.bind fun _ => keepsOpen_tellAll.bind fun _ =>
      keepsOpen_pure

theorem keepsOpen_takeSample {game : String} {count : Int} : KeepsOpen (takeSample invocation game count) := by
  refine keepsOpen_stopOn.bind fun _ => keepsOpen_tellAll.bind fun _ => keepsOpen_onCollection.bind fun docs => ?_
  split
  · exact keepsOpen_tellAll.bind fun _ => keepsOpen_pure
  · exact keepsOpen_writeFile.bind fun _ => keepsOpen_pure

theorem concludes_sample :
    (beginning .sample invocation).Concludes invocation workspace (runSample invocation) := by
  rw [beginning, runSample]
  cases invocation.arguments with
  | nil => exact Job.ends_tellAll.bind Job.ends_pure
  | cons game rest =>
      simp only
      cases limit rest.head? Sample.standardLimit with
      | error error => exact Job.ends_ofExcept.bind_error
      | ok count =>
          cases invocation.clientFault? with
          | some fault => exact Job.ends_ofExcept.bind Job.ends_stop.bind_error
          | none =>
              have worked : (Beginning.connected (.sample game count)).Concludes invocation workspace
                  ((takeSample invocation game count).andFinally close >>= fun _ => pure success) :=
                concludes_closing keepsOpen_takeSample
                  (by rw [takeSample, result_stopOn_bind, Work.verdict]) fun _ _ => Job.ends_pure
              obtain ⟨after, ended, closed⟩ := worked
              exact ⟨after, Job.ends_ofExcept.bind (Job.ends_pure.bind ended), closed⟩

theorem concludes_survey :
    (beginning .survey invocation).Concludes invocation workspace (runSurvey invocation) := by
  rw [beginning, runSurvey]
  cases limit invocation.arguments.head? 0 with
  | error error => exact Job.ends_ofExcept.bind_error
  | ok count =>
      refine concludes_connecting ?_
      exact concludes_closing keepsOpen_onDatabase rfl fun _ _ => Job.ends_pure

/-- A script whose arguments are rejected or whose server does not answer leaves everything as it was and
closes nothing; it ends with the exit code 1 or with the error.  So does a script that is refused the database
after the server has answered, although its client is open.  A connected script closes the connection once,
however its work ends, and the work decides between an exit code and an error that leaves the script. -/
theorem run_concludes (script : Script) (invocation : Invocation) (workspace : Workspace) :
    let outcome := (script.run invocation).run workspace
    match script.beginning invocation with
    | .unnamed => outcome.result = .ok 1 ∧ outcome.state = workspace
    | .refused error => outcome.result = .error error ∧ outcome.state = workspace
    | .unanswered fault | .abandoned fault =>
        outcome.result = (if fault.kind.isConnection then .ok 1 else .error (.store fault)) ∧
          outcome.state = workspace
    | .connected work =>
        outcome.result = work.verdict invocation workspace ∧
          outcome.state.closed = workspace.closed + 1 := by
  have concluded : (script.beginning invocation).Concludes invocation workspace (script.run invocation) := by
    cases script with
    | consolidate => exact concludes_consolidate
    | rename => exact concludes_rename
    | buildIndexes => exact concludes_buildIndexes
    | sample => exact concludes_sample
    | survey => exact concludes_survey
  intro outcome
  cases began : script.beginning invocation with
  | connected work =>
      rw [began] at concluded
      obtain ⟨after, ⟨notices, ran⟩, closed⟩ := concluded
      have left : outcome.state = after := congrArg Outcome.state ran
      exact ⟨congrArg Outcome.result ran, by rw [left]; exact closed⟩
  | _ =>
      rw [began] at concluded
      obtain ⟨notices, ran⟩ := concluded
      exact ⟨congrArg Outcome.result ran, congrArg Outcome.state ran⟩

/-- A script has got past connecting: the server has answered it.  A sample does not ask the server, so that
naming a game and a limit is enough. -/
def isConnected (script : Script) (invocation : Invocation) : Bool :=
  match script with
  | .sample =>
      match invocation.arguments with
      | [] => false
      | _ :: rest => (limit rest.head? Sample.standardLimit).isOk
  | .survey => (limit invocation.arguments.head? 0).isOk && invocation.silence?.isNone
  | .consolidate | .rename | .buildIndexes => invocation.silence?.isNone

def unrenamedSpecimen : Workspace where
  database := ⟨[(Schema.target, .ofDocuments [[("_id", .int 1), ("dbtimestamp", .int 3)]])]⟩
  files := []
  closed := 0

/-- The name of a database may have no point in it. -/
def refusePoint (name : String) : Option Fault :=
  if name.toList.contains '.' then
    some ⟨.invalidName, "database names cannot contain the character '.'"⟩
  else none

def pointedName : Invocation where
  arguments := []
  connectionFault? := none
  databaseName := "my.logs"
  databaseFault? := refusePoint
  setting := .standard

/-- The connection is lost during the update, and nothing is said about the reason. -/
def silentlyInterrupted : Invocation where
  arguments := []
  connectionFault? := none
  databaseName := "games"
  setting := ⟨[(Schema.target, .update ⟨.reconnecting, ""⟩)], Schema.standardCadence⟩

/-- A client that the server has answered stays open where it refuses the name of the database.  Whether a renaming
has failed is asked of the text of the reason: a failure without a text ends like a complete renaming. -/
theorem client_left_open_and_failed_renaming_exits_zero :
    (¬ ∀ (script : Script) (invocation : Invocation) (workspace : Workspace),
      script.isConnected invocation = true →
      ((script.run invocation).run workspace).state.closed = workspace.closed + 1) ∧
    ¬ ∀ (invocation : Invocation) (workspace : Workspace) (report : RenamingReport),
      Script.rename.isConnected invocation = true →
      ((Renaming.standard.perform (invocation.setting.failures.of Schema.target)).run
        (workspace.database.collection Schema.target)).result = .ok report →
      report.failure? ≠ none →
      ((Script.rename.run invocation).run workspace).result = .ok 1 := by
  constructor
  · intro closes
    have closed := closes .rename pointedName unrenamedSpecimen rfl
    have unclosed : ((Script.rename.run pointedName).run unrenamedSpecimen).state.closed = 0 := rfl
    rw [unclosed] at closed
    cases closed
  · intro exits
    have renamed : ((Renaming.standard.perform (silentlyInterrupted.setting.failures.of Schema.target)).run
        (unrenamedSpecimen.database.collection Schema.target)).result = .ok ⟨1, 0, 0, some ""⟩ := rfl
    have exited := exits silentlyInterrupted unrenamedSpecimen ⟨1, 0, 0, some ""⟩ rfl renamed (by simp)
    have zero : ((Script.rename.run silentlyInterrupted).run unrenamedSpecimen).result = .ok 0 := rfl
    rw [zero] at exited
    cases exited

end Script
end GameLogs
