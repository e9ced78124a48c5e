import GameLogs.Proofs.Copying
import GameLogs.Proofs.Games
import GameLogs.Proofs.Indexes
import GameLogs.Proofs.Sources
namespace GameLogs

/-! The run of a consolidation, and the documents that it leaves in the target.

Under an orderly setting the target ends with the deliveries that it admits, behind what it held; the
run itself comes to its end unless a document that was there before has code for its game.
-/

namespace Database

variable {setting : Setting} {rules : FailureRules} {database : Database} {name : String}

def consolidatedTarget (rules : FailureRules) (database : Database) : Collection :=
  ((database.collection Schema.target).receive rules database.deliveries).indexed rules
    IndexRequest.configured

def afterSources (rules : FailureRules) (database : Database) : Database :=
  database.sources.foldl (afterCopying rules Schema.target) (database.looked Schema.target)

def consolidated (rules : FailureRules) (database : Database) : Database :=
  (database.afterSources rules).put Schema.target (database.consolidatedTarget rules)

def sourceStages (rules : FailureRules) (database : Database) : List (Source × Collection) :=
  stages rules database (database.collection Schema.target) database.sources

def summary (rules : FailureRules) (database : Database) : Summary where
  sources := (database.sourceStages rules).map (stageTally rules database)
  indexes := IndexReport.ofRequests rules IndexRequest.configured
  total := (database.consolidatedTarget rules).documents.length
  games := (database.consolidatedTarget rules).gameCounts

def workNotices (rules : FailureRules) (cadence : Int) (database : Database) : List Notice :=
  (Classification.ofNames database.names).notices ++
    ((database.sourceStages rules).flatMap (stageNotices rules cadence database) ++
      (.spacedHeading .buildingIndexes :: IndexRequest.configured.flatMap (IndexRequest.notices rules)))

theorem alikeBesideTarget_afterCopying {source : Source} :
    (afterCopying rules Schema.target database source).AlikeBesideTarget database :=
  alikeBesideTarget_put.trans (alikeBesideTarget_looked.trans alikeBesideTarget_looked)

theorem foldl_afterCopying {sources : List Source}
    (foreign : ∀ source ∈ sources, source.name ≠ Schema.target) :
    (sources.foldl (afterCopying rules Schema.target) database).collection Schema.target =
        (database.collection Schema.target).receive rules (sources.flatMap database.batch) ∧
      (sources.foldl (afterCopying rules Schema.target) database).AlikeBesideTarget database := by
  induction sources generalizing database with
  | nil => exact ⟨rfl, .refl⟩
  | cons source rest ih =>
      obtain ⟨_, later⟩ := List.forall_mem_cons.mp foreign
      obtain ⟨target, alike⟩ := @ih (afterCopying rules Schema.target database source) later
      refine ⟨?_, alike.trans alikeBesideTarget_afterCopying⟩
      rw [List.foldl_cons, target, collection_afterCopying_target,
        alikeBesideTarget_afterCopying.batches_eq later, List.flatMap_cons, Collection.receive_append]

theorem collection_afterSources_target :
    (database.afterSources rules).collection Schema.target =
      (database.collection Schema.target).receive rules database.deliveries := by
  rw [afterSources, (foldl_afterCopying fun _ => name_ne_target_of_mem_sources).1, collection_looked,
    alikeBesideTarget_looked.batches_eq fun _ => name_ne_target_of_mem_sources]
  rfl

@[simp] theorem collection_consolidated_target :
    (database.consolidated rules).collection Schema.target = database.consolidatedTarget rules :=
  collection_put_self

/-- A consolidation changes no collection but the target. -/
theorem alikeBesideTarget_consolidated : (database.consolidated rules).AlikeBesideTarget database := by
  have copied := (@foldl_afterCopying rules (database.looked Schema.target) database.sources
    fun _ => name_ne_target_of_mem_sources).2
  exact alikeBesideTarget_put.trans (copied.trans alikeBesideTarget_looked)

/-- The end of a consolidation: the documents of the target are counted. -/
def finish (rules : FailureRules) (sources : List (String × Tally)) (indexes : IndexReport) :
    Job Database Summary := do
  let (total, games) ← on Schema.target (countDocuments rules)
  let summary : Summary := ⟨sources, indexes, total, games⟩
  Job.tellAll summary.notices
  return summary

/-- What a consolidation does once the sources are copied. -/
def conclude (rules : FailureRules) (sources : List (String × Tally)) : Job Database Summary := do
  Job.tell (.spacedHeading .buildingIndexes)
  let indexes ← on Schema.target (buildIndexes rules IndexRequest.configured)
  finish rules sources indexes

/-- What a consolidation does once the sources are known. -/
def consolidateSources (setting : Setting) (sources : List Source) : Job Database Summary := do
  let tallies ← copySources setting sources
  conclude setting.targetRules tallies

/-- The target is looked at before the sources are named, and the rest is told behind the counts of the
classification. -/
theorem run_consolidate_eq : (consolidate setting).run database =
    let rest := (consolidateSources setting database.sources).run (database.looked Schema.target)
    ⟨rest.result, rest.state, (Classification.ofNames database.names).notices ++ rest.notices⟩ := by
  simp only [consolidate, Job.run_bind, run_look, Job.run_get, Job.run_tellAll, names_looked, Outcome.andThen]
  rfl

private theorem run_consolidate_finish (orderly : setting.Orderly) :
    (consolidate setting).run database =
      let last := (finish setting.targetRules
        ((database.sourceStages setting.targetRules).map (stageTally setting.targetRules database))
        (IndexReport.ofRequests setting.targetRules IndexRequest.configured)).run
        (database.consolidated setting.targetRules)
      ⟨last.result, last.state, database.workNotices setting.targetRules setting.cadence ++ last.notices⟩ := by
  have foreign : ∀ source ∈ database.sources, source.name ≠ Schema.target :=
    fun _ => name_ne_target_of_mem_sources
  have copied : (copySources setting database.sources).run (database.looked Schema.target) = _ :=
    run_copySources orderly.toReadable foreign fun _ _ doc _ => orderly.insertion.obstacle?_eq_none doc
  have unread : ∀ source ∈ database.sources,
      (database.looked Schema.target).collection source.name = database.collection source.name :=
    fun _ _ => collection_looked
  obtain ⟨tallies, notices⟩ := stages_congr setting.targetRules setting.cadence
    (database.collection Schema.target) unread
  rw [collection_looked, tallies, notices] at copied
  have built : (on Schema.target (buildIndexes setting.targetRules IndexRequest.configured)).run
      (database.afterSources setting.targetRules) =
      ⟨.ok (IndexReport.ofRequests setting.targetRules IndexRequest.configured),
        database.consolidated setting.targetRules,
        IndexRequest.configured.flatMap (IndexRequest.notices setting.targetRules)⟩ := by
    apply run_on_of_run
    rw [collection_afterSources_target]
    exact run_buildIndexes (fun _ => IndexRequest.complete_of_mem_configured) orderly.index
  rw [afterSources] at built
  rw [run_consolidate_eq]
  simp only [consolidateSources, conclude, Job.run_bind, copied, Job.run_tell, Outcome.andThen, built]
  simp [workNotices, sourceStages]

theorem listed_consolidated : Schema.target ∈ (database.consolidated rules).collections.keys := by
  rw [consolidated, put, Entries.mem_keys_put]
  exact Or.inl rfl

private theorem state_finish {sources : List (String × Tally)} {indexes : IndexReport} :
    ((finish rules sources indexes).run (database.consolidated rules)).state = database.consolidated rules := by
  have counted : ((on Schema.target (countDocuments rules)).run (database.consolidated rules)).state =
      database.consolidated rules := by
    rw [on, Job.run_within, readsOnly_countDocuments]
    exact looked_of_listed listed_consolidated
  rw [finish, Job.run_bind]
  rcases ended : (on Schema.target (countDocuments rules)).run (database.consolidated rules) with
    ⟨_ | _, after, _⟩ <;> rw [ended] at counted
  · exact counted
  · simpa [Outcome.andThen] using counted

/-- What a consolidation leaves, also when a game that is code stops it at the end. -/
theorem state_consolidate (orderly : setting.Orderly) :
    ((consolidate setting).run database).state = database.consolidated setting.targetRules := by
  rw [run_consolidate_finish orderly]
  exact state_finish

theorem documents_consolidatedTarget : (database.consolidatedTarget rules).documents =
    (database.collection Schema.target).documents ++
      (admitted rules (database.collection Schema.target).identities database.deliveries).map
        Delivery.canonical :=
  Collection.documents_receive

theorem countable_consolidatedTarget (countable : (database.collection Schema.target).Countable) :
    (database.consolidatedTarget rules).Countable := by
  intro doc member text
  rw [documents_consolidatedTarget] at member
  rcases List.mem_append.mp member with old | new
  · exact countable doc old text
  · obtain ⟨delivery, _, rfl⟩ := List.mem_map.mp new
    rw [Delivery.field?_game]
    exact fun same => Value.noConfusion (Option.some.inj same)

theorem run_consolidate (orderly : setting.Orderly)
    (countable : (database.collection Schema.target).Countable) :
    (consolidate setting).run database =
      ⟨.ok (database.summary setting.targetRules), database.consolidated setting.targetRules,
        database.workNotices setting.targetRules setting.cadence ++
          (database.summary setting.targetRules).notices⟩ := by
  have counted : (on Schema.target (countDocuments setting.targetRules)).run
      (database.consolidated setting.targetRules) =
      ⟨.ok ((database.consolidatedTarget setting.targetRules).documents.length,
          (database.consolidatedTarget setting.targetRules).gameCounts),
        database.consolidated setting.targetRules, []⟩ := by
    have read := @run_countDocuments (database.consolidatedTarget setting.targetRules) setting.targetRules
      (orderly.count Schema.target) orderly.distinct (countable_consolidatedTarget countable)
    rw [← collection_consolidated_target] at read
    rw [run_on_of_unchanged read, looked_of_listed listed_consolidated, collection_consolidated_target]
  rw [run_consolidate_finish orderly]
  simp only [finish, Job.run_bind, counted, Outcome.andThen]
  simp [summary, sourceStages]

/-- A consolidation appends to the target, in the order of the deliveries and in canonical form,
exactly those whose identity is there, is not refused, and equals neither that of a document that was
there before nor that of a delivery that was appended before. -/
theorem consolidate_appends_admitted (orderly : setting.Orderly)
    (countable : (database.collection Schema.target).Countable) :
    ∃ summary, ((consolidate setting).run database).result = .ok summary ∧
      (((consolidate setting).run database).state.collection Schema.target).documents =
        (database.collection Schema.target).documents ++
          (admitted setting.targetRules (database.collection Schema.target).identities
            database.deliveries).map Delivery.canonical := by
  refine ⟨database.summary setting.targetRules, ?_, ?_⟩
  · rw [run_consolidate orderly countable]
  · rw [run_consolidate orderly countable, collection_consolidated_target]
    exact documents_consolidatedTarget

/-- Both kinds of sources, with equal identities in them and in the target. -/
def specimen : Database where
  collections :=
    [("logs_tetris", .ofDocuments
        [[("_id", .int 1), ("data", .document [("score", .int 5), ("_id", .int 9)])],
          [("score", .int 3)],
          [("_id", .string "a"), ("game", .string "go")],
          [("_id", .int 4)],
          [("_id", .long 1)]]),
      ("users", .ofDocuments [[("_id", .int 8)]]),
      ("snake", .ofDocuments [[("_id", .bool true)], [("_id", .string "b"), ("data", .int 1)]]),
      ("logdata", .ofDocuments [[("_id", .string "a"), ("game", .string "chess")]])]

theorem sources_specimen :
    specimen.sources = [⟨"logs_tetris", "tetris", true⟩, ⟨"snake", "snake", false⟩] := by decide

theorem countable_specimen : (specimen.collection Schema.target).Countable := by
  intro doc member text same
  obtain rfl := List.mem_singleton.mp member
  have stored : some (Value.string "chess") = some (.code text) := same
  cases stored

theorem proper_specimen : ∀ delivery ∈ specimen.deliveries, delivery.Proper := by decide

theorem consolidate_specimen :
    (Setting.refusing [.int 4] []).Orderly ∧ (specimen.collection Schema.target).Countable ∧
      ∃ summary, ((consolidate (.refusing [.int 4] [])).run specimen).result = .ok summary ∧
        (((consolidate (.refusing [.int 4] [])).run specimen).state.collection Schema.target).documents =
          [[("_id", .string "a"), ("game", .string "chess")],
            [("_id", .int 1), ("game", .string "tetris"), ("score", .int 5)],
            [("_id", .string "b"), ("game", .string "snake")]] :=
  ⟨Setting.orderly_refusing, countable_specimen,
    consolidate_appends_admitted Setting.orderly_refusing countable_specimen⟩

end Database
end GameLogs
