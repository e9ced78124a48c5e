import GameLogs.Proofs.Accounts
import GameLogs.Proofs.Holdings
import GameLogs.Proofs.Isolation
import Mathlib.Data.List.Perm.Basic
namespace GameLogs

/-! Consolidations of the same documents in another order.

Each source finds the same identities in the target as before, and is tallied as before.  The counts of
games follow from the tallies, and the documents that identities lead to from the first deliveries.
-/

namespace Database

variable {setting : Setting} {rules : FailureRules} {database other : Database} {sources : List Source}
  {first second : Collection} {identity : Value}

theorem AlikeInSources.batch_perm (alike : database.AlikeInSources List.Perm other) {source : Source}
    (member : source ∈ database.sources) : (database.batch source).Perm (other.batch source) :=
  (alike.documents source member).map _

theorem stageTallies_eq (permuted : ∀ source ∈ sources, (database.batch source).Perm (other.batch source))
    (same : first.SameIdentities second) :
    (stages rules database first sources).map (stageTally rules database) =
      (stages rules other second sources).map (stageTally rules other) := by
  induction sources generalizing first second with
  | nil => rfl
  | cons source rest ih =>
      obtain ⟨here, later⟩ := List.forall_mem_cons.mp permuted
      simp only [stages, List.map_cons, stageTally, same.tally_eq here, ih later (same.receive here)]

theorem AlikeInSources.deliveries_perm (alike : database.AlikeInSources List.Perm other) :
    database.deliveries.Perm other.deliveries := by
  rw [deliveries, deliveries, ← alike.sources_eq]
  exact List.Perm.flatMap_left _ fun _ => alike.batch_perm

theorem AlikeInSources.sources_summary (alike : database.AlikeInSources List.Perm other) :
    (database.summary rules).sources = (other.summary rules).sources := by
  simp only [summary, sourceStages, ← alike.sources_eq, ← alike.target]
  exact stageTallies_eq (fun _ => alike.batch_perm) .refl

theorem AlikeInSources.summary_eq (alike : database.AlikeInSources List.Perm other)
    (countable : (database.collection Schema.target).Countable) :
    database.summary rules = other.summary rules := by
  have sources := @sources_summary rules database other alike
  have total : (database.summary rules).total = (other.summary rules).total := by
    rw [total_summary, total_summary, Summary.migrated, Summary.migrated, sources, alike.target]
  have games : (database.summary rules).games = (other.summary rules).games := by
    refine Collection.gameCounts_congr (countable_consolidatedTarget countable)
      (countable_consolidatedTarget (alike.target ▸ countable)) fun game => ?_
    simp only [countOf_consolidatedTarget, Summary.migratedFrom, sources, alike.target]
  calc
    database.summary rules = ⟨(database.summary rules).sources, (database.summary rules).indexes,
        (database.summary rules).total, (database.summary rules).games⟩ := rfl
    _ = other.summary rules := by
      rw [sources, total, games]
      rfl

theorem AlikeInSources.sameIdentities (alike : database.AlikeInSources List.Perm other) :
    (database.consolidatedTarget rules).SameIdentities (other.consolidatedTarget rules) := by
  have received : ((database.collection Schema.target).receive rules database.deliveries).SameIdentities
      ((other.collection Schema.target).receive rules other.deliveries) := by
    rw [alike.target]
    exact Collection.SameIdentities.refl.receive alike.deliveries_perm
  exact received

private theorem find?_bears_flatMap
    (same : ∀ source ∈ sources,
      (database.batch source).find? (·.bears identity) = (other.batch source).find? (·.bears identity)) :
    (sources.flatMap database.batch).find? (·.bears identity) =
      (sources.flatMap other.batch).find? (·.bears identity) := by
  induction sources with
  | nil => rfl
  | cons source rest ih =>
      obtain ⟨here, later⟩ := List.forall_mem_cons.mp same
      rw [List.flatMap_cons, List.flatMap_cons, List.find?_append, List.find?_append, here, ih later]

theorem AlikeInSources.document?_eq (alike : database.AlikeInSources List.Perm other)
    (apart : ∀ source ∈ database.sources, (database.batch source).Pairwise Delivery.Apart) :
    (database.consolidatedTarget rules).document? identity =
      (other.consolidatedTarget rules).document? identity := by
  have first : database.deliveries.find? (·.bears identity) = other.deliveries.find? (·.bears identity) := by
    rw [deliveries, deliveries, ← alike.sources_eq]
    exact find?_bears_flatMap fun source member =>
      Delivery.find?_bears_of_perm (alike.batch_perm member) (apart source member)
  have received : ((database.collection Schema.target).receive rules database.deliveries).document? identity =
      ((other.collection Schema.target).receive rules other.deliveries).document? identity := by
    rw [Collection.document?_receive, Collection.document?_receive, first, alike.target]
  exact received

theorem alikeInSources_of_perm (distinct : database.collections.keys.Nodup)
    (permuted : database.collections.Perm other.collections) : database.AlikeInSources Eq other where
  names name _ := ((permuted.filter _).map _).mem_iff
  target := by rw [collection, collection, Entries.item?_of_perm distinct permuted]
  documents source _ := by rw [collection, collection, Entries.item?_of_perm distinct permuted]

/-- A consolidation comes to the same summary whatever the order of the collections and of the documents
in the sources.  The order of the collections does not show in the target at all; that of the documents
shows neither in the identities that are held nor, if no two identities in a source are equal, in the
documents they lead to. -/
theorem consolidate_order_independent (orderly : setting.Orderly)
    (countable : (database.collection Schema.target).Countable)
    (distinct : database.collections.keys.Nodup) :
    ∃ summary, ((consolidate setting).run database).result = .ok summary ∧
      let target := ((consolidate setting).run database).state.collection Schema.target
      (∀ other : Database, database.collections.Perm other.collections →
        ((consolidate setting).run other).result = .ok summary ∧
        (((consolidate setting).run other).state.collection Schema.target).documents = target.documents) ∧
      ∀ other, database.AlikeInSources List.Perm other →
        ((consolidate setting).run other).result = .ok summary ∧
        (∀ identity,
          (((consolidate setting).run other).state.collection Schema.target).holds identity =
            target.holds identity) ∧
        ((∀ source ∈ database.sources, (database.batch source).Pairwise Delivery.Apart) →
          ∀ identity,
            (((consolidate setting).run other).state.collection Schema.target).document? identity =
              target.document? identity) := by
  refine ⟨database.summary setting.targetRules, by rw [run_consolidate orderly countable], ?_, ?_⟩
  · intro other permuted
    obtain ⟨ended, left⟩ :=
      @AlikeInSources.consolidate_eq setting _ _ (alikeInSources_of_perm distinct permuted)
    rw [← ended, ← left, run_consolidate orderly countable]
    exact ⟨rfl, rfl⟩
  · intro other alike
    rw [run_consolidate orderly (alike.target ▸ countable), run_consolidate orderly countable,
      collection_consolidated_target, collection_consolidated_target]
    exact ⟨congrArg _ (alike.summary_eq countable).symm, fun identity => (alike.sameIdentities identity).symm,
      fun apart identity => (alike.document?_eq apart).symm⟩

private def turned (name : String) (collection : Collection) : Collection where
  documents := if name = Schema.target then collection.documents else collection.documents.reverse
  indexes := collection.indexes
  present := collection.present

/-- The documents of all collections but the target in the opposite order. -/
def reversed (database : Database) : Database where
  collections := database.collections.map fun entry => (entry.1, turned entry.1 entry.2)

private theorem collection_reversed {name : String} :
    database.reversed.collection name = turned name (database.collection name) := by
  have found : database.reversed.collections.item? name =
      (database.collections.item? name).map (turned name) :=
    Entries.item?_map_item
  rw [collection, collection, found]
  cases database.collections.item? name with
  | some stored => rfl
  | none => simp [turned, Collection.absent]

theorem alike_reversed : database.AlikeInSources List.Perm database.reversed where
  names name _ := by
    have same : database.reversed.names = database.names := by
      simp [names, reversed, List.filter_map, Function.comp_def, turned]
    rw [same]
  target := by
    rw [collection_reversed]
    rfl
  documents source member := by
    rw [collection_reversed, turned, if_neg (name_ne_target_of_mem_sources member)]
    exact (List.reverse_perm _).symm

theorem consolidate_order_independent_specimen :
    (Setting.refusing [.int 4] []).Orderly ∧ (specimen.collection Schema.target).Countable ∧
      specimen.collections.keys.Nodup ∧ specimen.AlikeInSources List.Perm specimen.reversed ∧
      ((consolidate (.refusing [.int 4] [])).run ⟨specimen.collections.reverse⟩).result =
        ((consolidate (.refusing [.int 4] [])).run specimen.reversed).result ∧
      (((consolidate (.refusing [.int 4] [])).run specimen.reversed).state.collection
        Schema.target).holds (.int 1) = true ∧
      (∀ source ∈ ledgerSpecimen.sources, (ledgerSpecimen.batch source).Pairwise Delivery.Apart) ∧
      (((consolidate (.refusing [.int 4] [])).run ledgerSpecimen.reversed).state.collection
          Schema.target).document? (.int 1) =
        some [("_id", .int 1), ("game", .string "tetris"), ("score", .int 5)] := by
  obtain ⟨summary, _, listed, shuffled⟩ := @consolidate_order_independent (.refusing [.int 4] []) specimen
    Setting.orderly_refusing countable_specimen (by decide)
  obtain ⟨_, _, _, ledgerShuffled⟩ := @consolidate_order_independent (.refusing [.int 4] []) ledgerSpecimen
    Setting.orderly_refusing countable_ledgerSpecimen (by decide)
  have apart : ∀ source ∈ ledgerSpecimen.sources, (ledgerSpecimen.batch source).Pairwise Delivery.Apart := by
    decide
  obtain ⟨ended, held, _⟩ := shuffled _ alike_reversed
  obtain ⟨_, _, found⟩ := ledgerShuffled _ alike_reversed
  refine ⟨Setting.orderly_refusing, countable_specimen, by decide, alike_reversed, ?_, ?_, apart, ?_⟩
  · rw [ended, (listed ⟨specimen.collections.reverse⟩ (List.reverse_perm _).symm).1]
  · rw [held]
    decide
  · rw [found apart]
    rfl

end Database
end GameLogs
