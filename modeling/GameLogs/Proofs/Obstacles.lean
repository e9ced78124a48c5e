import GameLogs.Proofs.Copying
namespace GameLogs

/-! Copies that are stopped, and what they leave.

A copy is stopped by the first document whose identity meets a fault that has nothing to do with the
store.  It leaves the target as a copy of the documents before it does, and a source is copied to its end
if none of its documents is an obstacle.
-/

/-- The first obstacle among some documents: what stands before it, and the fault that it meets. -/
structure FirstObstacle (obstacle? : Document → Option Fault) (docs before : List Document) (doc : Document)
    (fault : Fault) : Prop where
  stored : before ++ [doc] <+: docs
  met : obstacle? doc = some fault
  clear : ∀ other ∈ before, obstacle? other = none

variable {obstacle? : Document → Option Fault} {docs : List Document}

theorem exists_firstObstacle_of_findSome? {fault : Fault} (found : docs.findSome? obstacle? = some fault) :
    ∃ before doc, FirstObstacle obstacle? docs before doc fault := by
  obtain ⟨before, doc, rest, rfl, met, clear⟩ := List.findSome?_eq_some_iff.mp found
  exact ⟨before, doc, ⟨rest, by simp⟩, met, clear⟩

theorem exists_firstObstacle (obstructed : ∃ doc ∈ docs, (obstacle? doc).isSome = true) :
    ∃ before doc fault, FirstObstacle obstacle? docs before doc fault := by
  obtain ⟨fault, found⟩ := Option.isSome_iff_exists.mp (List.findSome?_isSome_iff.mpr obstructed)
  obtain ⟨before, doc, obstacle⟩ := exists_firstObstacle_of_findSome? found
  exact ⟨before, doc, fault, obstacle⟩

namespace Source

variable {source : Source} {rules : FailureRules} {cadence : Int} {total count : Nat} {tally : Tally}
  {target : Collection} {doc : Document} {before rest : List Document} {fault : Fault}

theorem run_copyDocument_of_obstacle (met : doc.obstacle? rules = some fault) :
    (source.copyDocument rules cadence total count tally doc).run target = ⟨.error (.store fault), target, []⟩ :=
  Job.run_bind_of_error (Insertion.run_perform_of_obstacle (obstacle?_canonical.trans met))

theorem run_copyDocuments_of_obstacle (clear : ∀ other ∈ before, other.obstacle? rules = none)
    (met : doc.obstacle? rules = some fault) (cadenced : cadence ≠ 0) :
    (source.copyDocuments rules cadence total count tally (before ++ doc :: rest)).run target =
      ⟨.error (.store fault), target.receive rules (before.map (Delivery.mk source)),
        source.copyingNotices cadence total count
          (before.zip (target.verdicts rules (before.map (Delivery.mk source))))⟩ := by
  induction before generalizing count tally target with
  | nil => exact Job.run_bind_of_error (run_copyDocument_of_obstacle met)
  | cons first others ih =>
      obtain ⟨here, later⟩ := List.forall_mem_cons.mp clear
      exact Job.run_bind_of_ok (run_copyDocument here cadenced) (ih later)

/-- The canonical form of a document depends on the game and the form of its source alone. -/
theorem receive_map_congr {other : Source} (game : other.game = source.game)
    (flatten : other.flatten = source.flatten) :
    target.receive rules (before.map (Delivery.mk other)) =
      target.receive rules (before.map (Delivery.mk source)) := by
  simp only [Collection.receive, List.foldl_map, Delivery.canonical, canonical, game, flatten]

end Source

namespace Database

variable {setting : Setting} {database other : Database} {source shorter : Source} {target : String}
  {doc : Document} {before : List Document} {fault : Fault}

theorem run_copyTo_of_obstacle (readable : setting.Readable)
    (obstacle : FirstObstacle (Document.obstacle? (setting.failures.of target))
      (database.collection source.name).documents before doc fault) :
    (source.copyTo setting target).run database =
      ⟨.error (.store fault),
        ((database.looked target).looked source.name).put target
          ((database.collection target).receive (setting.failures.of target) (before.map (Delivery.mk source))),
        source.copyingNotices setting.cadence (database.collection source.name).documents.length 0
          (before.zip ((database.collection target).verdicts (setting.failures.of target)
            (before.map (Delivery.mk source))))⟩ := by
  have reading := @run_on_openForReading setting (database.looked target) source readable
  rw [collection_looked] at reading
  refine Job.run_bind_of_silent run_look (Job.run_bind_of_silent reading ?_)
  apply run_on_of_run
  rw [collection_looked, collection_looked]
  obtain ⟨rest, joined⟩ := obstacle.stored
  rw [← joined, List.append_assoc, List.singleton_append]
  exact Job.run_bind_of_error
    (Source.run_copyDocuments_of_obstacle obstacle.clear obstacle.met readable.cadence)

theorem copyTo_fails_iff (readable : setting.Readable) :
    (∃ error, ((source.copyTo setting target).run database).result = .error error) ↔
      ∃ doc ∈ (database.collection source.name).documents,
        (doc.obstacle? (setting.failures.of target)).isSome = true := by
  constructor
  · rintro ⟨error, failed⟩
    rw [← List.findSome?_isSome_iff]
    cases found : (database.collection source.name).documents.findSome?
        (·.obstacle? (setting.failures.of target)) with
    | some fault => rfl
    | none =>
        rw [run_copyTo_of_clear readable (List.findSome?_eq_none_iff.mp found)] at failed
        cases failed
  · intro obstructed
    obtain ⟨before, doc, fault, obstacle⟩ := exists_firstObstacle obstructed
    exact ⟨.store fault, by rw [run_copyTo_of_obstacle readable obstacle]⟩

/-- A stopped copy leaves what is left by a copy of the documents before the obstacle. -/
theorem collection_copyTo_eq_shorter (readable : setting.Readable)
    (obstacle : FirstObstacle (Document.obstacle? (setting.failures.of target))
      (database.collection source.name).documents before doc fault)
    (game : shorter.game = source.game) (flatten : shorter.flatten = source.flatten)
    (same : other.collection target = database.collection target)
    (prior : (other.collection shorter.name).documents = before) :
    (∃ tally, ((shorter.copyTo setting target).run other).result = .ok tally) ∧
      ((source.copyTo setting target).run database).state.collection target =
        ((shorter.copyTo setting target).run other).state.collection target := by
  have clear : ∀ doc ∈ (other.collection shorter.name).documents,
      doc.obstacle? (setting.failures.of target) = none := by
    rw [prior]
    exact obstacle.clear
  rw [run_copyTo_of_obstacle readable obstacle, run_copyTo_of_clear readable clear,
    collection_afterCopying_target, batch, prior, same, Source.receive_map_congr game flatten]
  exact ⟨⟨_, rfl⟩, collection_put_self⟩

end Database
end GameLogs
