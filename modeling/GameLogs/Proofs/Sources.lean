import GameLogs.Proofs.Classification
import GameLogs.Proofs.Delivery
namespace GameLogs

/-! Databases that differ in the target alone.

The target is no source, so that such databases have the same sources and deliver the same documents.
-/

namespace Database

/-- The same collections exist beside the target, and they hold the same. -/
structure AlikeBesideTarget (first second : Database) : Prop where
  names : ∀ name, name ≠ Schema.target → (name ∈ first.names ↔ name ∈ second.names)
  collections : ∀ name, name ≠ Schema.target → first.collection name = second.collection name

variable {first second third database : Database} {name : String} {collection : Collection}

theorem AlikeBesideTarget.refl : database.AlikeBesideTarget database :=
  ⟨fun _ _ => Iff.rfl, fun _ _ => rfl⟩

theorem AlikeBesideTarget.trans (alike : first.AlikeBesideTarget second)
    (next : second.AlikeBesideTarget third) : first.AlikeBesideTarget third where
  names name different := (alike.names name different).trans (next.names name different)
  collections name different := (alike.collections name different).trans (next.collections name different)

theorem alikeBesideTarget_looked : (database.looked name).AlikeBesideTarget database where
  names _ _ := by rw [names_looked]
  collections _ _ := collection_looked

theorem alikeBesideTarget_put : (database.put Schema.target collection).AlikeBesideTarget database where
  names _ different := mem_names_put_of_ne different
  collections _ different := collection_put_of_ne different

theorem name_ne_target_of_mem_sources {source : Source} (member : source ∈ database.sources) :
    source.name ≠ Schema.target :=
  Classification.name_ne_target_of_mem_sources member

theorem AlikeBesideTarget.sources_eq (alike : first.AlikeBesideTarget second) :
    first.sources = second.sources := by
  refine Classification.sources_ofNames_congr fun name placed => alike.names name ?_
  rintro rfl
  exact placed Classification.placement_target

theorem AlikeBesideTarget.batch_eq (alike : first.AlikeBesideTarget second) {source : Source}
    (foreign : source.name ≠ Schema.target) : first.batch source = second.batch source := by
  rw [batch, batch, alike.collections source.name foreign]

theorem AlikeBesideTarget.batches_eq (alike : first.AlikeBesideTarget second) {sources : List Source}
    (foreign : ∀ source ∈ sources, source.name ≠ Schema.target) :
    sources.flatMap first.batch = sources.flatMap second.batch := by
  rw [List.flatMap_def, List.flatMap_def]
  congr 1
  exact List.map_congr_left fun source member => alike.batch_eq (foreign source member)

theorem AlikeBesideTarget.deliveries_eq (alike : first.AlikeBesideTarget second) :
    first.deliveries = second.deliveries := by
  rw [deliveries, alike.sources_eq]
  exact alike.batches_eq fun _ => name_ne_target_of_mem_sources

end Database
end GameLogs
