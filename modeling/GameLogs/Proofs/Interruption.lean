import GameLogs.Proofs.Consolidation
import GameLogs.Proofs.Destination
namespace GameLogs

/-! Consolidations that are interrupted and begun anew.

An interrupted consolidation has offered some of the first deliveries to the target.  Whatever was
refused to it, a consolidation that comes to its end leads every identity to the document to which it
would have led it at once.
-/

/-- A consolidation that ends before its time: after so many deliveries, anywhere in a source. -/
structure Interruption where
  rules : FailureRules
  reach : Nat

namespace Collection

variable {target : Collection} {rules others : FailureRules} {deliveries : List Delivery}

theorem accepts_congr {delivery : Delivery} (allowed : delivery.AllowedBy rules)
    (alsoAllowed : delivery.AllowedBy others) :
    target.accepts rules delivery.canonical = target.accepts others delivery.canonical := by
  rw [Bool.eq_iff_iff, accepts_iff, accepts_iff]
  constructor
  · rintro ⟨identity, named, _, free⟩
    exact ⟨identity, named, alsoAllowed identity named, free⟩
  · rintro ⟨identity, named, _, free⟩
    exact ⟨identity, named, allowed identity named, free⟩

theorem receive_congr (allowed : ∀ delivery ∈ deliveries, delivery.AllowedBy rules)
    (alsoAllowed : ∀ delivery ∈ deliveries, delivery.AllowedBy others) :
    target.receive rules deliveries = target.receive others deliveries := by
  induction deliveries generalizing target with
  | nil => rfl
  | cons delivery rest ih =>
      obtain ⟨first, later⟩ := List.forall_mem_cons.mp allowed
      obtain ⟨alsoFirst, alsoLater⟩ := List.forall_mem_cons.mp alsoAllowed
      rw [receive_cons, receive_cons, offer_eq, offer_eq, accepts_congr first alsoFirst, ih later alsoLater]

/-- Deliveries of which the first ones have come already. -/
theorem receive_resumed (proper : ∀ delivery ∈ deliveries, delivery.Proper) (reach : Nat) :
    (target.receive rules (deliveries.take reach)).receive rules deliveries =
      target.receive rules deliveries := by
  have arrived : ∀ delivery ∈ deliveries.take reach,
      (target.receive rules (deliveries.take reach)).Settles rules delivery :=
    settles_receive fun delivery member => proper delivery (List.mem_of_mem_take member)
  have inTwo : ∀ collection : Collection, collection.receive rules deliveries =
      (collection.receive rules (deliveries.take reach)).receive rules (deliveries.drop reach) := by
    intro collection
    rw [← receive_append, List.take_append_drop]
  rw [inTwo, receive_of_settles arrived, ← inTwo]

end Collection

namespace Database

variable {setting : Setting} {rules : FailureRules} {database : Database} {interruption : Interruption}
  {interruptions : List Interruption} {initial : Collection} {stream : List Delivery}

def interrupted (database : Database) (interruption : Interruption) : Database :=
  database.put Schema.target
    ((database.collection Schema.target).receive interruption.rules
      (database.deliveries.take interruption.reach))

@[simp] theorem collection_interrupted_target : (database.interrupted interruption).collection Schema.target =
    (database.collection Schema.target).receive interruption.rules
      (database.deliveries.take interruption.reach) :=
  collection_put_self

theorem deliveries_interrupted : (database.interrupted interruption).deliveries = database.deliveries :=
  alikeBesideTarget_put.deliveries_eq

theorem onCourse_interrupted (proper : ∀ delivery ∈ database.deliveries, delivery.Proper)
    (onCourse : initial.OnCourse database.deliveries (database.collection Schema.target)) :
    initial.OnCourse (database.interrupted interruption).deliveries
      ((database.interrupted interruption).collection Schema.target) := by
  have place : database.deliveries = [] ++ database.deliveries.take interruption.reach ++
      database.deliveries.drop interruption.reach := by
    rw [List.nil_append, List.take_append_drop]
  rw [deliveries_interrupted, collection_interrupted_target]
  exact onCourse.receive place (fun delivery member => proper delivery (List.mem_of_mem_take member))
    (by simp)

theorem onCourse_interruptions (proper : ∀ delivery ∈ database.deliveries, delivery.Proper)
    (onCourse : initial.OnCourse database.deliveries (database.collection Schema.target)) :
    initial.OnCourse (interruptions.foldl interrupted database).deliveries
      ((interruptions.foldl interrupted database).collection Schema.target) := by
  induction interruptions generalizing database with
  | nil => exact onCourse
  | cons interruption rest ih =>
      rw [List.foldl_cons]
      refine ih ?_ (onCourse_interrupted proper onCourse)
      rw [deliveries_interrupted]
      exact proper

theorem deliveries_interruptions :
    (interruptions.foldl interrupted database).deliveries = database.deliveries := by
  induction interruptions generalizing database with
  | nil => rfl
  | cons interruption rest ih => rw [List.foldl_cons, ih, deliveries_interrupted]

theorem document?_consolidatedTarget (proper : ∀ delivery ∈ database.deliveries, delivery.Proper)
    (allowed : ∀ delivery ∈ database.deliveries, delivery.AllowedBy rules)
    (onCourse : initial.OnCourse database.deliveries (database.collection Schema.target))
    (identity : Value) :
    (database.consolidatedTarget rules).document? identity =
      initial.destined? database.deliveries identity := by
  have place : database.deliveries = [] ++ database.deliveries ++ [] := by simp
  exact (onCourse.receive place proper (by simp)).document?_eq (Collection.settles_receive proper)
    allowed identity

/-- Interruptions that met no refusal leave nothing different for the next consolidation to do. -/
theorem receive_interruptions (proper : ∀ delivery ∈ database.deliveries, delivery.Proper)
    (allowed : ∀ delivery ∈ database.deliveries, delivery.AllowedBy rules)
    (unrefused : ∀ interruption ∈ interruptions,
      ∀ delivery ∈ database.deliveries.take interruption.reach, delivery.AllowedBy interruption.rules) :
    ((interruptions.foldl interrupted database).collection Schema.target).receive rules
        database.deliveries =
      (database.collection Schema.target).receive rules database.deliveries := by
  induction interruptions generalizing database with
  | nil => rfl
  | cons interruption rest ih =>
      obtain ⟨first, later⟩ := List.forall_mem_cons.mp unrefused
      have same : (database.collection Schema.target).receive interruption.rules
            (database.deliveries.take interruption.reach) =
          (database.collection Schema.target).receive rules
            (database.deliveries.take interruption.reach) :=
        Collection.receive_congr first fun delivery member =>
          allowed delivery (List.mem_of_mem_take member)
      -- The deliveries of this interruption are taken up into those of the run that follows.
      have resumed := @ih (database.interrupted interruption)
      rw [deliveries_interrupted, collection_interrupted_target, same,
        Collection.receive_resumed proper] at resumed
      exact resumed proper allowed later

/-- A consolidation that refuses nothing and follows interrupted ones leads every identity to the same
document as if it had come at once.  If nothing was refused before either, the target holds the same
documents in the same order. -/
theorem consolidate_after_interruptions (orderly : setting.Orderly)
    (proper : ∀ delivery ∈ database.deliveries, delivery.Proper)
    (allowed : ∀ delivery ∈ database.deliveries, delivery.AllowedBy setting.targetRules)
    (interruptions : List Interruption) :
    (∀ identity,
      (((consolidate setting).run (interruptions.foldl interrupted database)).state.collection
          Schema.target).document? identity =
        (((consolidate setting).run database).state.collection Schema.target).document? identity) ∧
    ((∀ interruption ∈ interruptions,
        ∀ delivery ∈ database.deliveries.take interruption.reach, delivery.AllowedBy interruption.rules) →
      (((consolidate setting).run (interruptions.foldl interrupted database)).state.collection
          Schema.target).documents =
        (((consolidate setting).run database).state.collection Schema.target).documents) := by
  rw [state_consolidate orderly, state_consolidate orderly, collection_consolidated_target,
    collection_consolidated_target]
  constructor
  · intro identity
    have same := @deliveries_interruptions database interruptions
    have onCourse := @onCourse_interruptions database interruptions
      (database.collection Schema.target) proper Collection.onCourse_refl
    rw [document?_consolidatedTarget proper allowed Collection.onCourse_refl, ← same]
    rw [← same] at proper allowed
    exact document?_consolidatedTarget proper allowed onCourse identity
  · intro unrefused
    have received := receive_interruptions proper allowed unrefused
    rw [consolidatedTarget, deliveries_interruptions, received]
    rfl

theorem consolidate_specimen_after_interruptions :
    (Setting.refusing [] []).Orderly ∧
      (∀ delivery ∈ specimen.deliveries, delivery.Proper) ∧
      (∀ delivery ∈ specimen.deliveries, delivery.AllowedBy (Setting.refusing [] []).targetRules) ∧
      (∀ identity,
        (((consolidate (.refusing [] [])).run
            ([⟨[.insert (.int 1) ⟨.write, "full"⟩], 6⟩, ⟨[], 2⟩].foldl interrupted
              specimen)).state.collection Schema.target).document? identity =
          (((consolidate (.refusing [] [])).run specimen).state.collection Schema.target).document?
            identity) ∧
      (((consolidate (.refusing [] [])).run
          ([⟨[.insert (.int 1) ⟨.write, "full"⟩], 6⟩, ⟨[], 2⟩].foldl interrupted
            specimen)).state.collection Schema.target).document? (.int 1) =
        some [("_id", .int 1), ("game", .string "tetris"), ("score", .int 5)] ∧
      (((consolidate (.refusing [] [])).run
          ([⟨[], 1⟩, ⟨[.insert (.string "b") ⟨.write, "full"⟩], 5⟩].foldl interrupted
            specimen)).state.collection Schema.target).documents =
        (((consolidate (.refusing [] [])).run specimen).state.collection Schema.target).documents ∧
      (((consolidate (.refusing [] [])).run specimen).state.collection Schema.target).documents.map
        (·.field Field.identity) = [.string "a", .int 1, .int 4, .string "b"] := by
  have allowed : ∀ delivery ∈ specimen.deliveries,
      delivery.AllowedBy (Setting.refusing [] []).targetRules := by decide
  have always := consolidate_after_interruptions Setting.orderly_refusing proper_specimen allowed
  exact ⟨Setting.orderly_refusing, proper_specimen, allowed, (always _).1, ((always _).1 _).trans rfl,
    (always _).2 (by decide), rfl⟩

end Database
end GameLogs
