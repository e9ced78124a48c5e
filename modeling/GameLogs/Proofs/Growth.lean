import GameLogs.Proofs.Holdings
import GameLogs.Proofs.Indifference
namespace GameLogs

/-! Consolidations of sources that have grown since they were consolidated before.

What was delivered before is delivered again among the rest, and settled.  The two deliveries together
therefore bring to the target what the later one alone would bring, but possibly in another order: of
deliveries with equal identities another one may have come first.
-/

namespace Delivery

variable {earlier deliveries : List Delivery} {identity : Value}

theorem find?_bears_covered (apart : deliveries.Pairwise Apart)
    (covered : ∀ delivery ∈ earlier, delivery ∈ deliveries) :
    (earlier.find? (·.bears identity)).or (deliveries.find? (·.bears identity)) =
      deliveries.find? (·.bears identity) := by
  cases found : earlier.find? (·.bears identity) with
  | none => rw [Option.none_or]
  | some delivery =>
      have member := covered delivery (List.mem_of_find?_eq_some found)
      have borne : delivery.bears identity = true := by simpa using List.find?_some found
      rw [find?_bears_of_mem apart member borne, Option.some_or]

end Delivery

namespace Collection

variable {target first second : Collection} {rules : FailureRules}
  {earlier deliveries others : List Delivery} {identity : Value}

theorem SameDocuments.receive (same : first.SameDocuments second) :
    (first.receive rules deliveries).SameDocuments (second.receive rules deliveries) := by
  rw [SameDocuments, documents_receive, documents_receive, identities, identities, same]

theorem SameDocuments.document?_eq (same : first.SameDocuments second) :
    first.document? identity = second.document? identity := by
  rw [document?, document?, same]

theorem SameDocuments.holds_eq (same : first.SameDocuments second) :
    first.holds identity = second.holds identity := by
  rw [holds, holds, same]

theorem length_receive_of_perm (permuted : deliveries.Perm others) :
    (target.receive rules deliveries).documents.length =
      (target.receive rules others).documents.length := by
  rw [length_receive, length_receive, migrated_tally_of_perm permuted]

theorem receive_append_covered (proper : ∀ delivery ∈ deliveries, delivery.Proper)
    (covered : ∀ delivery ∈ earlier, delivery ∈ deliveries) :
    target.receive rules (deliveries ++ earlier) = target.receive rules deliveries := by
  rw [receive_append]
  exact receive_of_settles fun delivery member => settles_receive proper delivery (covered delivery member)

/-- Deliveries that come once more among others do not add to what is held. -/
theorem sameIdentities_covered (proper : ∀ delivery ∈ deliveries, delivery.Proper)
    (covered : ∀ delivery ∈ earlier, delivery ∈ deliveries) :
    (target.receive rules (earlier ++ deliveries)).SameIdentities (target.receive rules deliveries) := by
  rw [← receive_append_covered proper covered]
  exact SameIdentities.refl.receive List.perm_append_comm

theorem length_receive_covered (proper : ∀ delivery ∈ deliveries, delivery.Proper)
    (covered : ∀ delivery ∈ earlier, delivery ∈ deliveries) :
    (target.receive rules (earlier ++ deliveries)).documents.length =
      (target.receive rules deliveries).documents.length := by
  rw [← receive_append_covered proper covered]
  exact length_receive_of_perm List.perm_append_comm

theorem document?_receive_covered (apart : deliveries.Pairwise Delivery.Apart)
    (covered : ∀ delivery ∈ earlier, delivery ∈ deliveries) :
    (target.receive rules (earlier ++ deliveries)).document? identity =
      (target.receive rules deliveries).document? identity := by
  rw [document?_receive, document?_receive, List.find?_append, Delivery.find?_bears_covered apart covered]

end Collection

namespace Database

variable {setting : Setting} {rules : FailureRules} {database grown later : Database}

/-- Collections that are not excluded, and documents anywhere in them, have come in addition; the target
is the same. -/
structure GrowsTo (database grown : Database) : Prop where
  names : ∀ name, Placement.of Schema.reserved Schema.logPrefix name ≠ .excluded →
    name ∈ database.names → name ∈ grown.names
  target : grown.collection Schema.target = database.collection Schema.target
  documents : ∀ source ∈ database.sources,
    (database.collection source.name).documents.Sublist (grown.collection source.name).documents

theorem GrowsTo.mem_sources (grows : database.GrowsTo grown) {source : Source}
    (member : source ∈ database.sources) : source ∈ grown.sources :=
  Classification.mem_sources_of_subset grows.names member

theorem GrowsTo.mem_deliveries (grows : database.GrowsTo grown) {delivery : Delivery}
    (member : delivery ∈ database.deliveries) : delivery ∈ grown.deliveries := by
  obtain ⟨source, listed, delivered⟩ := List.mem_flatMap.mp member
  obtain ⟨doc, stored, rfl⟩ := List.mem_map.mp delivered
  refine List.mem_flatMap.mpr ⟨source, grows.mem_sources listed, List.mem_map_of_mem ?_⟩
  exact (grows.documents source listed).subset stored

theorem GrowsTo.sameDocuments (grows : database.GrowsTo grown) (resumed : later.AlikeBesideTarget grown)
    (left : later.collection Schema.target = database.consolidatedTarget rules) :
    (later.consolidatedTarget rules).SameDocuments
      ((grown.collection Schema.target).receive rules (database.deliveries ++ grown.deliveries)) := by
  have before : (later.collection Schema.target).SameDocuments
      ((grown.collection Schema.target).receive rules database.deliveries) := by
    rw [left, grows.target]
    rfl
  have received := @Collection.SameDocuments.receive _ _ rules grown.deliveries before
  rw [← Collection.receive_append, ← resumed.deliveries_eq] at received
  rw [← resumed.deliveries_eq]
  exact received

/-- Sources may be consolidated while they grow.  If they are consolidated once more in the end, the
target holds the same identities, and as many documents, as if they had been consolidated only then; if
no two of their identities are equal, it holds the same documents under them.  What the first
consolidation left in the target stays in front as it was. -/
theorem consolidate_incrementally (orderly : setting.Orderly)
    (countable : (database.collection Schema.target).Countable) (grows : database.GrowsTo grown)
    (proper : ∀ delivery ∈ grown.deliveries, delivery.Proper) (resumed : later.AlikeBesideTarget grown)
    (left : later.collection Schema.target =
      ((consolidate setting).run database).state.collection Schema.target) :
    ∃ first second whole,
      ((consolidate setting).run database).result = .ok first ∧
      ((consolidate setting).run later).result = .ok second ∧
      ((consolidate setting).run grown).result = .ok whole ∧
      second.total = whole.total ∧
      let after := ((consolidate setting).run later).state.collection Schema.target
      let atOnce := ((consolidate setting).run grown).state.collection Schema.target
      (∀ identity, after.holds identity = atOnce.holds identity) ∧
      after.documents.length = atOnce.documents.length ∧
      (later.collection Schema.target).documents <+: after.documents ∧
      (grown.deliveries.Pairwise Delivery.Apart →
        ∀ identity, after.document? identity = atOnce.document? identity) := by
  rw [state_consolidate orderly, collection_consolidated_target] at left
  have grownCountable : (grown.collection Schema.target).Countable := grows.target ▸ countable
  have laterCountable : (later.collection Schema.target).Countable :=
    left ▸ countable_consolidatedTarget countable
  have covered : ∀ delivery ∈ database.deliveries, delivery ∈ grown.deliveries :=
    fun _ => grows.mem_deliveries
  have same := grows.sameDocuments resumed left
  have length := congrArg List.length same
  rw [Collection.length_receive_covered proper covered] at length
  simp only [run_consolidate orderly countable, run_consolidate orderly laterCountable,
    run_consolidate orderly grownCountable, collection_consolidated_target]
  refine ⟨_, _, _, rfl, rfl, rfl, length, fun identity => ?_, length, ?_, fun apart identity => ?_⟩
  · rw [same.holds_eq]
    exact Collection.sameIdentities_covered proper covered identity
  · rw [documents_consolidatedTarget]
    exact List.prefix_append _ _
  · rw [same.document?_eq]
    exact Collection.document?_receive_covered apart covered

/-- The specimen with another source in front, and with documents in front and between. -/
def grownSpecimen : Database where
  collections :=
    [("logs_go", .ofDocuments [[("_id", .bool true), ("data", .document [("moves", .int 3)])]]),
      ("logs_tetris", .ofDocuments
        ([("_id", .string "c")] :: (specimen.collection "logs_tetris").documents)),
      ("snake", .ofDocuments
        [[("_id", .bool true)], [("_id", .int 4)], [("_id", .string "b"), ("data", .int 1)]]),
      ("logdata", specimen.collection "logdata")]

theorem grows_specimen : specimen.GrowsTo grownSpecimen where
  names := by
    have kept : ∀ name ∈ specimen.names,
        Placement.of Schema.reserved Schema.logPrefix name = .excluded ∨ name ∈ grownSpecimen.names := by
      decide
    exact fun name placed member => (kept name member).resolve_left placed
  target := rfl
  documents := by
    rw [sources_specimen, List.forall_mem_cons, List.forall_mem_singleton]
    exact ⟨.cons _ (.refl _), .cons_cons _ (.cons _ (.refl _))⟩

/-- More documents whose identities are all different, in a source that was not there before. -/
def grownCleanSpecimen : Database where
  collections :=
    ("logs_go", .ofDocuments [[("_id", .int 3)], [("_id", .string "t")]]) :: cleanSpecimen.collections

theorem grows_cleanSpecimen : cleanSpecimen.GrowsTo grownCleanSpecimen where
  names := by
    have kept : ∀ name ∈ cleanSpecimen.names, name ∈ grownCleanSpecimen.names := by decide
    exact fun name _ member => kept name member
  target := rfl
  documents := by
    have listed : cleanSpecimen.sources = specimen.sources := by decide
    rw [listed, sources_specimen, List.forall_mem_cons, List.forall_mem_singleton]
    exact ⟨.refl _, .refl _⟩

def resumedSpecimen (setting : Setting) (database grown : Database) : Database :=
  grown.put Schema.target (((consolidate setting).run database).state.collection Schema.target)

/-- The target of the specimen has kept the document that came first, and has as many documents as if
another one had come before it.  Where all identities are different it has the same. -/
theorem consolidate_incrementally_specimen :
    (Setting.refusing [.int 4] []).Orderly ∧ (specimen.collection Schema.target).Countable ∧
      specimen.GrowsTo grownSpecimen ∧ (∀ delivery ∈ grownSpecimen.deliveries, delivery.Proper) ∧
      (∃ second whole,
        ((consolidate (.refusing [.int 4] [])).run
          (resumedSpecimen (.refusing [.int 4] []) specimen grownSpecimen)).result = .ok second ∧
        ((consolidate (.refusing [.int 4] [])).run grownSpecimen).result = .ok whole ∧
        second.total = whole.total) ∧
      (((consolidate (.refusing [.int 4] [])).run
          (resumedSpecimen (.refusing [.int 4] []) specimen grownSpecimen)).state.collection
            Schema.target).document? (.int 1) =
        some [("_id", .int 1), ("game", .string "tetris"), ("score", .int 5)] ∧
      (((consolidate (.refusing [.int 4] [])).run grownSpecimen).state.collection
          Schema.target).document? (.int 1) =
        some [("_id", .bool true), ("game", .string "go"), ("moves", .int 3)] ∧
      grownCleanSpecimen.deliveries.Pairwise Delivery.Apart ∧
      (((consolidate (.refusing [] [])).run
          (resumedSpecimen (.refusing [] []) cleanSpecimen grownCleanSpecimen)).state.collection
            Schema.target).document? (.int 3) =
        (((consolidate (.refusing [] [])).run grownCleanSpecimen).state.collection
          Schema.target).document? (.int 3) := by
  have proper : ∀ delivery ∈ grownSpecimen.deliveries, delivery.Proper := by decide
  have apart : grownCleanSpecimen.deliveries.Pairwise Delivery.Apart := by decide
  have emptyCountable : (cleanSpecimen.collection Schema.target).Countable :=
    fun _ member => absurd member List.not_mem_nil
  obtain ⟨_, second, whole, _, resumed, atOnce, total, _⟩ :=
    @consolidate_incrementally _ _ _ (resumedSpecimen (.refusing [.int 4] []) specimen grownSpecimen)
      Setting.orderly_refusing countable_specimen grows_specimen proper alikeBesideTarget_put
      collection_put_self
  obtain ⟨_, _, _, _, _, _, _, _, _, _, same⟩ :=
    @consolidate_incrementally _ _ _ (resumedSpecimen (.refusing [] []) cleanSpecimen grownCleanSpecimen)
      Setting.orderly_refusing emptyCountable grows_cleanSpecimen (by decide) alikeBesideTarget_put
      collection_put_self
  exact ⟨Setting.orderly_refusing, countable_specimen, grows_specimen, proper,
    ⟨second, whole, resumed, atOnce, total⟩, rfl, rfl, apart, same apart _⟩

end Database
end GameLogs
