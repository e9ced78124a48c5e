import GameLogs.Proofs.Interleaving
import Mathlib.Logic.Relation
namespace GameLogs

/-! A worker that is left alone.

Step by step it does what a consolidation does at once: it ends with the same tallies, and the target
has received the same deliveries.
-/

open Relation

namespace Worker

/-- Some steps lead from a worker and a database to others, when no one else works. -/
def Reaches (setting : Setting) : Worker × Database → Worker × Database → Prop :=
  ReflTransGen fun before after => before.1.advance setting before.2 = after

variable {setting : Setting} {database : Database} {closed : List (String × Tally)} {source : Source}
  {later : List Source} {total count : Nat} {tally : Tally} {docs : List Document}

private theorem reaches_copied (orderly : setting.Orderly)
    (listed : Schema.target ∈ database.collections.keys) :
    Reaches setting (copying closed (some ⟨source, total, count, tally, ⟨docs, none⟩⟩) later, database)
      (copying closed (some ⟨source, total, count + docs.length,
          tally.addAll ((database.collection Schema.target).verdicts setting.targetRules
            (docs.map (Delivery.mk source))), ⟨[], none⟩⟩) later,
        database.put Schema.target ((database.collection Schema.target).receive setting.targetRules
          (docs.map (Delivery.mk source)))) := by
  induction docs generalizing count tally database with
  | nil =>
      have same : database.put Schema.target (database.collection Schema.target) = database :=
        Database.looked_of_listed listed
      rw [List.map_nil, Collection.receive_nil, same]
      exact .refl
  | cons doc rest ih =>
      have listedStill : Schema.target ∈ (database.put Schema.target
          ((database.collection Schema.target).offer setting.targetRules
            (source.canonical doc))).collections.keys :=
        Entries.mem_keys_put.mpr (Or.inl rfl)
      have others := @ih _ (count + 1) (tally.add (Insertion.judge setting.targetRules
        (database.collection Schema.target) (source.canonical doc))) listedStill
      rw [Database.collection_put_self, Database.put_put_self, Nat.add_right_comm] at others
      exact .head (advance_copying orderly) others

private theorem reaches_closed (orderly : setting.Orderly) :
    Reaches setting (copying closed none (source :: later), database)
      (copying (closed ++ [Database.stageTally setting.targetRules database
          (source, database.collection Schema.target)]) none later,
        Database.afterCopying setting.targetRules Schema.target database source) := by
  have listed : Schema.target ∈ ((database.looked Schema.target).looked source.name).collections.keys :=
    Entries.mem_keys_put.mpr (Or.inr (Entries.mem_keys_put.mpr (Or.inl rfl)))
  have copied := @reaches_copied setting _ closed source later
    (database.collection source.name).documents.length 0 .zero
    (database.collection source.name).documents orderly listed
  rw [Database.collection_looked, Database.collection_looked] at copied
  exact .head (advance_opening orderly.toReadable) (copied.tail advance_closing)

private theorem reaches_copiedSources (orderly : setting.Orderly)
    (foreign : ∀ source ∈ later, source.name ≠ Schema.target) :
    Reaches setting (copying closed none later, database)
      (copying (closed ++ (Database.stages setting.targetRules database
          (database.collection Schema.target) later).map
            (Database.stageTally setting.targetRules database)) none [],
        later.foldl (Database.afterCopying setting.targetRules Schema.target) database) := by
  induction later generalizing closed database with
  | nil =>
      rw [Database.stages, List.map_nil, List.append_nil]
      exact .refl
  | cons source rest ih =>
      obtain ⟨_, others⟩ := List.forall_mem_cons.mp foreign
      have unread : ∀ other ∈ rest,
          (Database.afterCopying setting.targetRules Schema.target database source).collection other.name =
            database.collection other.name :=
        fun other member => Database.collection_afterCopying_of_ne (others other member)
      have tallies := (Database.stages_congr setting.targetRules setting.cadence
        ((database.collection Schema.target).receive setting.targetRules (database.batch source)) unread).1
      have copied := @ih (Database.afterCopying setting.targetRules Schema.target database source)
        (closed ++ [Database.stageTally setting.targetRules database
          (source, database.collection Schema.target)]) others
      rw [Database.collection_afterCopying_target, tallies, List.append_assoc] at copied
      exact (reaches_closed orderly).trans copied

/-- A worker alone ends with the tallies of a consolidation, and with the database as it is when all
sources have been copied. -/
theorem reaches_afterSources (orderly : setting.Orderly) :
    Reaches setting (waiting, database)
      (copying (database.summary setting.targetRules).sources none [],
        database.afterSources setting.targetRules) := by
  have unread : ∀ source ∈ database.sources,
      (database.looked Schema.target).collection source.name = database.collection source.name :=
    fun _ _ => Database.collection_looked
  have tallies := (Database.stages_congr setting.targetRules setting.cadence
    (database.collection Schema.target) unread).1
  have copied := @reaches_copiedSources setting (database.looked Schema.target) [] database.sources orderly
    fun _ => Database.name_ne_target_of_mem_sources
  rw [Database.collection_looked, tallies] at copied
  exact .head advance_waiting copied

theorem exists_turns_of_reaches {before after : Worker × Database} (reached : Reaches setting before after) :
    ∃ turns, Workshop.run setting ⟨before.2, [before.1]⟩ turns = ⟨after.2, [after.1]⟩ := by
  induction reached with
  | refl => exact ⟨[], rfl⟩
  | @tail middle after _ step ih =>
      obtain ⟨turns, ran⟩ := ih
      refine ⟨turns ++ [0], ?_⟩
      have last : Workshop.turn setting ⟨middle.2, [middle.1]⟩ 0 = ⟨after.2, [after.1]⟩ := by
        rw [← step]
        rfl
      rw [Workshop.run_append, ran]
      exact last

end Worker
end GameLogs
