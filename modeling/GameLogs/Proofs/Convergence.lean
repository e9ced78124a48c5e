import GameLogs.Proofs.Renaming
import GameLogs.Proofs.Repetition
namespace GameLogs

/-! Consolidations and renamings of the time field, one after another in any order.

However they follow each other, the target has one destination.  It is there as soon as it settles
all deliveries and has nothing to rename, which is the case once a renaming has come after a
consolidation.
-/

/-- The two jobs that change the documents of the target. -/
inductive Task where
  | consolidate
  | rename
deriving DecidableEq, Repr

namespace Task

def perform (setting : Setting) : Task → Job Database Unit
  | .consolidate => do
      let _ ← Database.consolidate setting
      return ()
  | .rename => do
      let _ ← Database.on Schema.target (Renaming.standard.perform setting.targetRules)
      return ()

/-- Performs tasks one after another; a task that stops keeps the others from being performed. -/
def performAll (setting : Setting) (tasks : List Task) : Job Database Unit := tasks.forM (perform setting)

/-- What a task makes of the target. -/
def ofTarget (rules : FailureRules) (deliveries : List Delivery) (target : Collection) : Task → Collection
  | .consolidate => (target.receive rules deliveries).indexed rules IndexRequest.configured
  | .rename => target.renamed .standard

def ofDatabase (rules : FailureRules) (database : Database) : Task → Database
  | .consolidate => database.consolidated rules
  | .rename => database.put Schema.target ((database.collection Schema.target).renamed .standard)

end Task

namespace Collection

variable {target : Collection} {rules : FailureRules} {deliveries : List Delivery} {task : Task}
  {tasks : List Task}

def destination (rules : FailureRules) (deliveries : List Delivery) (target : Collection) : List Document :=
  ((target.receive rules deliveries).renamed .standard).documents

/-- No delivery brings anything to the target any more, and no document has the former field. -/
structure Arrived (rules : FailureRules) (deliveries : List Delivery) (target : Collection) : Prop where
  settled : ∀ delivery ∈ deliveries, target.Settles rules delivery
  renamed : (target.renamed .standard).documents = target.documents

theorem Arrived.documents_eq (arrived : target.Arrived rules deliveries) :
    target.documents = target.destination rules deliveries := by
  rw [destination, receive_of_settles arrived.settled, arrived.renamed]

theorem settles_ofTarget (settled : ∀ delivery ∈ deliveries, target.Settles rules delivery) :
    ∀ delivery ∈ deliveries, (task.ofTarget rules deliveries target).Settles rules delivery := by
  intro delivery member
  cases task with
  | consolidate =>
      rw [Task.ofTarget, receive_of_settles settled]
      exact (settled delivery member).mono fun _ held => held
  | rename =>
      apply (settled delivery member).mono
      intro identity held
      rw [Task.ofTarget, holds_renamed (by decide), held]

theorem settles_consolidate (proper : ∀ delivery ∈ deliveries, delivery.Proper) :
    ∀ delivery ∈ deliveries, (Task.ofTarget rules deliveries target .consolidate).Settles rules delivery :=
  fun delivery member => (settles_receive proper delivery member).mono fun _ held => held

theorem arrived_rename (settled : ∀ delivery ∈ deliveries, target.Settles rules delivery) :
    (Task.ofTarget rules deliveries target .rename).Arrived rules deliveries where
  settled := settles_ofTarget settled
  renamed := congrArg documents (renamed_renamed (by decide))

theorem Arrived.ofTarget (arrived : target.Arrived rules deliveries) :
    (task.ofTarget rules deliveries target).Arrived rules deliveries := by
  cases task with
  | consolidate =>
      refine ⟨settles_ofTarget arrived.settled, ?_⟩
      rw [Task.ofTarget, receive_of_settles arrived.settled]
      exact arrived.renamed
  | rename => exact arrived_rename arrived.settled

/-- No task leads a target away from its destination. -/
theorem destination_ofTarget (proper : ∀ delivery ∈ deliveries, delivery.Proper) :
    (task.ofTarget rules deliveries target).destination rules deliveries =
      target.destination rules deliveries := by
  cases task with
  | consolidate =>
      rw [destination, receive_of_settles (settles_consolidate proper)]
      rfl
  | rename => exact documents_receive_renamed (by decide) (by decide)

def afterTasks (rules : FailureRules) (deliveries : List Delivery) (target : Collection)
    (tasks : List Task) : Collection :=
  tasks.foldl (fun target task => task.ofTarget rules deliveries target) target

theorem afterTasks_append {more : List Task} :
    target.afterTasks rules deliveries (tasks ++ more) =
      (target.afterTasks rules deliveries tasks).afterTasks rules deliveries more :=
  List.foldl_append

theorem destination_afterTasks (proper : ∀ delivery ∈ deliveries, delivery.Proper) :
    (target.afterTasks rules deliveries tasks).destination rules deliveries =
      target.destination rules deliveries := by
  induction tasks generalizing target with
  | nil => rfl
  | cons task rest ih => exact ih.trans (destination_ofTarget proper)

theorem settles_afterTasks (settled : ∀ delivery ∈ deliveries, target.Settles rules delivery) :
    ∀ delivery ∈ deliveries, (target.afterTasks rules deliveries tasks).Settles rules delivery := by
  induction tasks generalizing target with
  | nil => exact settled
  | cons task rest ih => exact ih (settles_ofTarget settled)

theorem Arrived.afterTasks (arrived : target.Arrived rules deliveries) :
    (target.afterTasks rules deliveries tasks).Arrived rules deliveries := by
  induction tasks generalizing target with
  | nil => exact arrived
  | cons task rest ih => exact ih arrived.ofTarget

theorem arrived_afterTasks (proper : ∀ delivery ∈ deliveries, delivery.Proper)
    (ordered : [Task.consolidate, .rename].Sublist tasks) :
    (target.afterTasks rules deliveries tasks).Arrived rules deliveries := by
  obtain ⟨first, second, rfl, earlier, later⟩ := List.cons_sublist_iff.mp ordered
  obtain ⟨before, between, rfl⟩ := List.append_of_mem earlier
  obtain ⟨waiting, after, rfl⟩ := List.append_of_mem (List.singleton_sublist.mp later)
  -- The consolidation settles all deliveries, and they are still settled when the renaming comes.
  have consolidated := @settles_consolidate (target.afterTasks rules deliveries before) rules deliveries proper
  have still := @settles_afterTasks _ _ _ waiting (@settles_afterTasks _ _ _ between consolidated)
  rw [afterTasks_append, afterTasks_append, afterTasks_append]
  exact (arrived_rename still).afterTasks

end Collection

namespace Task

variable {setting : Setting} {rules : FailureRules} {database : Database} {task : Task} {tasks : List Task}

theorem alikeBesideTarget_ofDatabase : (task.ofDatabase rules database).AlikeBesideTarget database := by
  cases task with
  | consolidate => exact Database.alikeBesideTarget_consolidated
  | rename => exact Database.alikeBesideTarget_put

theorem collection_ofDatabase_target : (task.ofDatabase rules database).collection Schema.target =
    task.ofTarget rules database.deliveries (database.collection Schema.target) := by
  cases task with
  | consolidate => exact Database.collection_consolidated_target
  | rename => exact Database.collection_put_self

theorem countable_ofDatabase (countable : (database.collection Schema.target).Countable) :
    ((task.ofDatabase rules database).collection Schema.target).Countable := by
  cases task with
  | consolidate =>
      rw [ofDatabase, Database.collection_consolidated_target]
      exact Database.countable_consolidatedTarget countable
  | rename =>
      rw [ofDatabase, Database.collection_put_self]
      intro doc member text
      obtain ⟨former, stored, rfl⟩ := List.mem_map.mp member
      rw [Document.field?_rename_of_ne (by decide) (by decide)]
      exact countable former stored text

theorem run_perform (orderly : setting.Orderly) (updated : setting.targetRules.updateFault? = none)
    (countable : (database.collection Schema.target).Countable) :
    ∃ notices, (task.perform setting).run database =
      ⟨.ok (), task.ofDatabase setting.targetRules database, notices⟩ := by
  cases task with
  | consolidate =>
      exact ⟨_, Job.run_bind_of_ok (Database.run_consolidate orderly countable) (Job.run_pure _)⟩
  | rename =>
      have renamed := Database.run_on_of_run (@Renaming.run_perform .standard setting.targetRules
        (database.collection Schema.target) (orderly.count Schema.target) (Or.inr updated))
      exact ⟨_, Job.run_bind_of_ok renamed (Job.run_pure _)⟩

theorem run_performAll (orderly : setting.Orderly) (updated : setting.targetRules.updateFault? = none)
    (countable : (database.collection Schema.target).Countable) :
    ((performAll setting tasks).run database).result = .ok () ∧
      ((performAll setting tasks).run database).state.collection Schema.target =
        (database.collection Schema.target).afterTasks setting.targetRules database.deliveries tasks := by
  induction tasks generalizing database with
  | nil => exact ⟨rfl, rfl⟩
  | cons task rest ih =>
      obtain ⟨notices, performed⟩ := @run_perform setting database task orderly updated countable
      have later := ih (@countable_ofDatabase setting.targetRules database task countable)
      rw [collection_ofDatabase_target, alikeBesideTarget_ofDatabase.deliveries_eq] at later
      rw [performAll, List.forM_eq_forM, List.forM_cons, Job.run_bind, performed]
      exact later

/-- Tasks among which a renaming comes after a consolidation leave the target with the documents that a
single consolidation and a single renaming would have left, in the same order and with the same order
of fields. -/
theorem performAll_converges (orderly : setting.Orderly)
    (updated : setting.targetRules.updateFault? = none)
    (countable : (database.collection Schema.target).Countable)
    (proper : ∀ delivery ∈ database.deliveries, delivery.Proper)
    (ordered : [consolidate, rename].Sublist tasks) :
    ((performAll setting tasks).run database).result = .ok () ∧
      (((performAll setting tasks).run database).state.collection Schema.target).documents =
        (((performAll setting [.consolidate, .rename]).run database).state.collection
          Schema.target).documents := by
  obtain ⟨completed, left⟩ := @run_performAll setting database tasks orderly updated countable
  obtain ⟨_, single⟩ := @run_performAll setting database [.consolidate, .rename] orderly updated countable
  refine ⟨completed, ?_⟩
  rw [left, single, (Collection.arrived_afterTasks proper ordered).documents_eq,
    (Collection.arrived_afterTasks proper (List.Sublist.refl _)).documents_eq,
    Collection.destination_afterTasks proper, Collection.destination_afterTasks proper]

/-- Documents with the former field, with both fields, and with neither, in the sources and the target. -/
def specimen : Database where
  collections :=
    [("logs_tetris", .ofDocuments
        [[("_id", .int 1), ("dbtimestamp", .int 100), ("data", .document [("score", .int 5)])],
          [("_id", .int 2), ("serverTimestamp", .int 7), ("dbtimestamp", .int 200)]]),
      ("snake", .ofDocuments [[("_id", .bool true)], [("_id", .string "b"), ("length", .int 3)]]),
      ("logdata", .ofDocuments [[("_id", .string "a"), ("dbtimestamp", .int 5), ("game", .string "go")]])]

theorem countable_specimen : (specimen.collection Schema.target).Countable := by
  intro doc member text same
  obtain rfl := List.mem_singleton.mp member
  have stored : some (Value.string "go") = some (.code text) := same
  cases stored

theorem performAll_specimen :
    (Setting.refusing [] ["idx_game_playerId"]).Orderly ∧
      (Setting.refusing [] ["idx_game_playerId"]).targetRules.updateFault? = none ∧
      (specimen.collection Schema.target).Countable ∧
      (∀ delivery ∈ specimen.deliveries, delivery.Proper) ∧
      [consolidate, rename].Sublist
        [.rename, .consolidate, .consolidate, .rename, .rename, .consolidate] ∧
      ((performAll (.refusing [] ["idx_game_playerId"])
          [.rename, .consolidate, .consolidate, .rename, .rename, .consolidate]).run
        specimen).result = .ok () ∧
      (((performAll (.refusing [] ["idx_game_playerId"])
            [.rename, .consolidate, .consolidate, .rename, .rename, .consolidate]).run
          specimen).state.collection Schema.target).documents =
        [[("_id", .string "a"), ("game", .string "go"), ("serverTimestamp", .int 5)],
          [("_id", .int 1), ("game", .string "tetris"), ("score", .int 5), ("serverTimestamp", .int 100)],
          [("_id", .int 2), ("game", .string "tetris"), ("serverTimestamp", .int 200)],
          [("_id", .string "b"), ("game", .string "snake"), ("length", .int 3)]] := by
  have proper : ∀ delivery ∈ specimen.deliveries, delivery.Proper := by decide
  have ordered : [consolidate, rename].Sublist
      [.rename, .consolidate, .consolidate, .rename, .rename, .consolidate] := by decide
  obtain ⟨completed, left⟩ := @performAll_converges (.refusing [] ["idx_game_playerId"]) specimen _
    Setting.orderly_refusing (by decide) countable_specimen proper ordered
  exact ⟨Setting.orderly_refusing, by decide, countable_specimen, proper, ordered, completed, left⟩

end Task
end GameLogs
