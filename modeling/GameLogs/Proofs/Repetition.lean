import GameLogs.Proofs.Consolidation
import GameLogs.Proofs.Settlement
namespace GameLogs

/-! Consolidating a second time.

The target settles every delivery of the first run, so that the second run changes nothing and counts
as skipped what the first run inserted.
-/

/-- The tally of a source that is copied again: what was inserted is there already. -/
def Tally.again (tally : Tally) : Tally := ⟨0, tally.migrated + tally.skipped, tally.errors⟩

theorem Tally.addAll_again {tally : Tally} {insertions : List Insertion} :
    tally.again.addAll (insertions.map Insertion.again) = (tally.addAll insertions).again := by
  induction insertions generalizing tally with
  | nil => rfl
  | cons insertion rest ih =>
      have step : tally.again.add insertion.again = (tally.add insertion).again := by
        cases insertion <;> simp only [Insertion.again, add, again, Tally.mk.injEq, and_true, true_and] <;> omega
      change (tally.again.add insertion.again).addAll (rest.map Insertion.again) = _
      rw [step, ih]
      rfl

namespace Database

variable {setting : Setting} {rules : FailureRules} {database : Database}

theorem settles_consolidatedTarget (proper : ∀ delivery ∈ database.deliveries, delivery.Proper) :
    ∀ delivery ∈ database.deliveries, (database.consolidatedTarget rules).Settles rules delivery :=
  fun delivery member =>
    (Collection.settles_receive proper delivery member).mono fun _ held => held

theorem consolidatedTarget_consolidated (proper : ∀ delivery ∈ database.deliveries, delivery.Proper) :
    (database.consolidated rules).consolidatedTarget rules = database.consolidatedTarget rules := by
  rw [consolidatedTarget, collection_consolidated_target, alikeBesideTarget_consolidated.deliveries_eq,
    Collection.receive_of_settles (settles_consolidatedTarget proper)]
  exact Collection.indexed_again

/-- A source that has nothing more to give is copied without a trace, if it and the target are listed. -/
private theorem afterCopying_of_settles {target : String} {source : Source}
    (listedTarget : target ∈ database.collections.keys) (listed : source.name ∈ database.collections.keys)
    (settled : ∀ delivery ∈ database.batch source, (database.collection target).Settles rules delivery) :
    afterCopying rules target database source = database := by
  rw [afterCopying, looked_of_listed listedTarget, looked_of_listed listed,
    Collection.receive_of_settles settled]
  exact looked_of_listed listedTarget

theorem consolidated_consolidated (proper : ∀ delivery ∈ database.deliveries, delivery.Proper) :
    (database.consolidated rules).consolidated rules = database.consolidated rules := by
  have copied : (database.consolidated rules).afterSources rules = database.consolidated rules := by
    rw [afterSources, looked_of_listed listed_consolidated]
    suffices fixed : ∀ sources : List Source, (∀ source ∈ sources, source ∈ database.sources) →
        sources.foldl (afterCopying rules Schema.target) (database.consolidated rules) =
          database.consolidated rules by
      exact fixed _ (fun source member => alikeBesideTarget_consolidated.sources_eq ▸ member)
    intro sources
    induction sources with
    | nil => exact fun _ => rfl
    | cons source rest ih =>
        intro known
        obtain ⟨first, later⟩ := List.forall_mem_cons.mp known
        have listed : source.name ∈ (database.consolidated rules).collections.keys := by
          apply listed_of_mem_names
          rw [← alikeBesideTarget_consolidated.sources_eq] at first
          exact (Classification.placement_of_mem_sources first).1
        have settled : ∀ delivery ∈ (database.consolidated rules).batch source,
            ((database.consolidated rules).collection Schema.target).Settles rules delivery := by
          intro delivery member
          rw [alikeBesideTarget_consolidated.batch_eq (name_ne_target_of_mem_sources first)] at member
          rw [collection_consolidated_target]
          exact settles_consolidatedTarget proper delivery (List.mem_flatMap.mpr ⟨source, first, member⟩)
        rw [List.foldl_cons, afterCopying_of_settles listed_consolidated listed settled, ih later]
  rw [consolidated, copied, consolidatedTarget_consolidated proper]
  have stored : (database.consolidated rules).looked Schema.target = database.consolidated rules :=
    looked_of_listed listed_consolidated
  rwa [looked, collection_consolidated_target] at stored

/-- Sources that are copied again meet the target as it became, and each tally says so. -/
private theorem stageTally_again {sources : List Source} {target later : Collection}
    (proper : ∀ delivery ∈ sources.flatMap database.batch, delivery.Proper)
    (kept : ∀ identity, (target.receive rules (sources.flatMap database.batch)).holds identity = true →
      later.holds identity = true) :
    (stages rules database later sources).map (stageTally rules database) =
      ((stages rules database target sources).map (stageTally rules database)).map fun source =>
        (source.1, source.2.again) := by
  -- The first run meets a target that grows from source to source, the second one always the last.
  induction sources generalizing target with
  | nil => rfl
  | cons source rest ih =>
      rw [List.flatMap_cons] at proper kept
      obtain ⟨first, others⟩ := List.forall_mem_append.mp proper
      rw [Collection.receive_append] at kept
      have held : ∀ identity, (target.receive rules (database.batch source)).holds identity = true →
          later.holds identity = true :=
        fun identity received => kept identity (Collection.holds_receive received)
      have settled : later.receive rules (database.batch source) = later :=
        Collection.receive_of_settles fun delivery member =>
          (Collection.settles_receive first delivery member).mono held
      have tallied : later.tally rules (database.batch source) =
          (target.tally rules (database.batch source)).again := by
        rw [Collection.tally, Collection.tally, Collection.verdicts_again first held]
        exact @Tally.addAll_again .zero (target.verdicts rules (database.batch source))
      simp only [stages, List.map_cons, settled, ih others kept, stageTally, tallied]

theorem summary_consolidated (proper : ∀ delivery ∈ database.deliveries, delivery.Proper) :
    (database.consolidated rules).summary rules =
      { database.summary rules with
        sources := (database.summary rules).sources.map fun source => (source.1, source.2.again) } := by
  have unread : ∀ source ∈ database.sources,
      (database.consolidated rules).collection source.name = database.collection source.name :=
    fun _ member =>
      alikeBesideTarget_consolidated.collections _ (name_ne_target_of_mem_sources member)
  have same := (stages_congr rules 1 (database.consolidatedTarget rules) unread).1
  have kept : ∀ identity,
      ((database.collection Schema.target).receive rules database.deliveries).holds identity = true →
        (database.consolidatedTarget rules).holds identity = true :=
    fun _ held => held
  have tallied : ((database.consolidated rules).sourceStages rules).map
        (stageTally rules (database.consolidated rules)) =
      ((database.sourceStages rules).map (stageTally rules database)).map fun source =>
        (source.1, source.2.again) := by
    rw [sourceStages, alikeBesideTarget_consolidated.sources_eq, collection_consolidated_target, same]
    exact stageTally_again proper kept
  rw [summary, tallied, consolidatedTarget_consolidated proper, summary]

/-- A consolidation that follows another changes nothing in the database.  It reports the same errors,
indexes and counts, and everything that the first one inserted or skipped as skipped. -/
theorem consolidate_again (orderly : setting.Orderly)
    (countable : (database.collection Schema.target).Countable)
    (proper : ∀ delivery ∈ database.deliveries, delivery.Proper) :
    ∃ first second,
      ((consolidate setting).run database).result = .ok first ∧
      ((consolidate setting).run ((consolidate setting).run database).state).result = .ok second ∧
      ((consolidate setting).run ((consolidate setting).run database).state).state =
        ((consolidate setting).run database).state ∧
      second = { first with sources := first.sources.map fun source => (source.1, source.2.again) } := by
  have countableAgain : ((database.consolidated setting.targetRules).collection Schema.target).Countable := by
    rw [collection_consolidated_target]
    exact countable_consolidatedTarget countable
  refine ⟨database.summary setting.targetRules,
    (database.consolidated setting.targetRules).summary setting.targetRules, ?_, ?_, ?_, ?_⟩
  · rw [run_consolidate orderly countable]
  · rw [run_consolidate orderly countable, run_consolidate orderly countableAgain]
  · rw [run_consolidate orderly countable, run_consolidate orderly countableAgain]
    exact consolidated_consolidated proper
  · exact summary_consolidated proper

theorem consolidate_specimen_again :
    (Setting.refusing [.int 4] ["idx_game_playerId"]).Orderly ∧
      (specimen.collection Schema.target).Countable ∧
      (∀ delivery ∈ specimen.deliveries, delivery.Proper) ∧
      ∃ first second,
        ((consolidate (.refusing [.int 4] ["idx_game_playerId"])).run specimen).result = .ok first ∧
        ((consolidate (.refusing [.int 4] ["idx_game_playerId"])).run
          ((consolidate (.refusing [.int 4] ["idx_game_playerId"])).run specimen).state).result =
            .ok second ∧
        ((consolidate (.refusing [.int 4] ["idx_game_playerId"])).run
          ((consolidate (.refusing [.int 4] ["idx_game_playerId"])).run specimen).state).state =
            ((consolidate (.refusing [.int 4] ["idx_game_playerId"])).run specimen).state ∧
        second = { first with sources := first.sources.map fun source => (source.1, source.2.again) } :=
  ⟨Setting.orderly_refusing, countable_specimen, proper_specimen,
    consolidate_again Setting.orderly_refusing countable_specimen proper_specimen⟩

end Database
end GameLogs
