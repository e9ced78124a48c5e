import GameLogs.Proofs.Consolidation
import GameLogs.Proofs.Identities
namespace GameLogs

/-! Attempts of every kind on one collection, one after another.

A collection whose documents have distinct identities stays one, whatever is attempted on it and
however the attempts end.
-/

/-- What can be attempted on a collection.  A consolidation works on the target of the schema. -/
inductive Operation where
  | insert (doc : Document)
  | copy (source : Source)
  | consolidate
  | rename (fields : Renaming)
  | index (requests : List IndexRequest)

namespace Operation

def perform (setting : Setting) (target : String) : Operation → Job Database Unit
  | .insert doc => do
      let _ ← Database.on target (Insertion.perform (setting.failures.of target) doc)
      return ()
  | .copy source => do
      let _ ← source.copyTo setting target
      return ()
  | .consolidate => do
      let _ ← Database.consolidate setting
      return ()
  | .rename fields => do
      let _ ← Database.on target (fields.perform (setting.failures.of target))
      return ()
  | .index requests => do
      let _ ← Database.on target (buildIndexes (setting.failures.of target) requests)
      return ()

def SparesIdentity : Operation → Prop
  | .rename fields => fields.Spares Field.identity
  | _ => True

instance : DecidablePred SparesIdentity
  | .rename fields => inferInstanceAs (Decidable (fields.Spares Field.identity))
  | .insert _ | .copy _ | .consolidate | .index _ => inferInstanceAs (Decidable True)

theorem respects_perform {setting : Setting} {target : String} {operation : Operation}
    (spared : operation.SparesIdentity) :
    (operation.perform setting target).Respects (Database.KeptAt target) := by
  have frame := @Database.frame_keptAt target target
  cases operation with
  | insert doc => exact frame.discard (frame.onWriting Insertion.respects_perform)
  | copy source => exact frame.discard (frame.copyTo fun _ _ => Source.respects_copyCursor)
  | consolidate =>
      have frame := @Database.frame_keptAt Schema.target target
      exact frame.discard (frame.consolidate (fun _ _ _ => Source.respects_copyCursor) respects_buildIndexes)
  | rename fields => exact frame.discard (frame.onWriting (Renaming.respects_perform spared))
  | index requests => exact frame.discard (frame.onWriting respects_buildIndexes)

end Operation

/-- An operation under a setting, which may make it stop anywhere. -/
structure Attempt where
  setting : Setting
  operation : Operation

namespace Database

variable {database : Database} {target : String} {attempts earlier later : List Attempt}

/-- What attempts on a collection leave, one after another and each however it ends. -/
def attempted (target : String) (database : Database) (attempts : List Attempt) : Database :=
  attempts.foldl
    (fun database attempt => ((attempt.operation.perform attempt.setting target).run database).state) database

theorem attempted_append : database.attempted target (earlier ++ later) =
    (database.attempted target earlier).attempted target later :=
  List.foldl_append

theorem keptAt_attempted (spared : ∀ attempt ∈ attempts, attempt.operation.SparesIdentity) :
    KeptAt target database (database.attempted target attempts) := by
  induction attempts generalizing database with
  | nil => exact Collection.keptBy_refl
  | cons attempt rest ih =>
      obtain ⟨first, others⟩ := List.forall_mem_cons.mp spared
      exact Collection.keptBy_trans _ _ _ (Operation.respects_perform first database) (ih others)

/-- At any time, whatever was attempted on a collection with distinct identities and however it ended,
the identities are distinct; and what was there at an earlier time stands in its place under its
identity. -/
theorem identified_attempted (identified : (database.collection target).Identified)
    (spared : ∀ attempt ∈ earlier ++ later, attempt.operation.SparesIdentity) :
    ((database.attempted target earlier).collection target).Identified ∧
      ((database.attempted target (earlier ++ later)).collection target).Identified ∧
      ∀ (place : Nat) (doc : Document),
        ((database.attempted target earlier).collection target).documents[place]? = some doc →
          ∃ still : Document,
            ((database.attempted target (earlier ++ later)).collection target).documents[place]? =
              some still ∧
            still.field? Field.identity = doc.field? Field.identity := by
  obtain ⟨sparedEarlier, sparedLater⟩ := List.forall_mem_append.mp spared
  have first := @keptAt_attempted database target earlier sparedEarlier
  have second := @keptAt_attempted (database.attempted target earlier) target later sparedLater
  have middle := first.identified identified
  rw [attempted_append]
  exact ⟨middle, second.identified middle, fun _ _ stored => second.exists_getElem? stored⟩

/-- Attempts of every kind.  The copy at the end stops after one document, and the index is incomplete. -/
def turbulence : List Attempt :=
  [⟨.refusing [] ["idx_game_playerId"], .insert [("score", .int 2)]⟩,
    ⟨.standard, .rename ⟨"game", "title"⟩⟩,
    ⟨.standard, .copy ⟨"logdata", "go", true⟩⟩,
    ⟨.standard, .insert [("_id", .null), ("dbtimestamp", .int 1)]⟩,
    ⟨.standard, .index [⟨none, some "idx"⟩]⟩,
    ⟨⟨[], 0⟩, .copy ⟨"users", "users", false⟩⟩]

theorem identified_attempted_specimen :
    (specimen.collection Schema.target).Identified ∧
      (∀ attempt ∈ [⟨.refusing [.int 4] [], .consolidate⟩] ++ turbulence,
        attempt.operation.SparesIdentity) ∧
      ((specimen.attempted Schema.target [⟨.refusing [.int 4] [], .consolidate⟩]).collection
        Schema.target).Identified ∧
      ((specimen.attempted Schema.target
        ([⟨.refusing [.int 4] [], .consolidate⟩] ++ turbulence)).collection Schema.target).Identified ∧
      ∃ still : Document,
        ((specimen.attempted Schema.target
          ([⟨.refusing [.int 4] [], .consolidate⟩] ++ turbulence)).collection Schema.target).documents[2]? =
            some still ∧
          still.field? Field.identity = some (.string "b") := by
  have identified : (specimen.collection Schema.target).Identified := ⟨by decide, by decide⟩
  have spared : ∀ attempt ∈ [⟨.refusing [.int 4] [], .consolidate⟩] ++ turbulence,
      attempt.operation.SparesIdentity := by decide
  obtain ⟨first, second, kept⟩ := identified_attempted identified spared
  exact ⟨identified, spared, first, second,
    kept 2 [("_id", .string "b"), ("game", .string "snake")] rfl⟩

end Database
end GameLogs
