import GameLogs.Proofs.Interruption
import GameLogs.Proofs.Worker
namespace GameLogs

/-! Several consolidations of one database at the same time.

Their workers take turns in any order.  The target stays on course, because whatever a worker has
behind it is settled, no matter by whom; and it grows by one document with each that is counted.
-/

structure Workshop where
  database : Database
  workers : List Worker

namespace Workshop

def opened (database : Database) (jobs : Nat) : Workshop := ⟨database, List.replicate jobs .waiting⟩

/-- The worker with an index makes one step, if there is one. -/
def turn (setting : Setting) (workshop : Workshop) (index : Nat) : Workshop :=
  match workshop.workers[index]? with
  | none => workshop
  | some worker =>
      let (next, after) := worker.advance setting workshop.database
      ⟨after, workshop.workers.set index next⟩

def run (setting : Setting) (workshop : Workshop) (turns : List Nat) : Workshop :=
  turns.foldl (turn setting) workshop

def finished (workshop : Workshop) : Bool := workshop.workers.all Worker.finished

def migrated (workshop : Workshop) : Nat := (workshop.workers.map Worker.migrated).sum

def target (workshop : Workshop) : Collection := workshop.database.collection Schema.target

variable {setting : Setting} {rules : FailureRules} {start : Database} {workshop : Workshop}

theorem run_append {turns more : List Nat} :
    workshop.run setting (turns ++ more) = (workshop.run setting turns).run setting more :=
  List.foldl_append

/-- What workers keep that began on the same database: the sources are as they were, all deliveries
behind a worker are settled, and the target has grown by what they count. -/
structure Consistent (start : Database) (rules : FailureRules) (workshop : Workshop) : Prop where
  alike : workshop.database.AlikeBesideTarget start
  ready : ∀ worker ∈ workshop.workers, worker.Ready
  settled : ∀ worker ∈ workshop.workers, worker.SettledBy start rules workshop.target
  onCourse : (start.collection Schema.target).OnCourse start.deliveries workshop.target
  grown : ∃ added, (start.collection Schema.target).GrownBy added workshop.target ∧
    added.length = workshop.migrated

theorem consistent_opened (jobs : Nat) : (opened start jobs).Consistent start rules where
  alike := .refl
  ready worker member := by
    obtain rfl := List.eq_of_mem_replicate member
    exact trivial
  settled worker member := by
    obtain rfl := List.eq_of_mem_replicate member
    exact ⟨[], rfl, by simp⟩
  onCourse := Collection.onCourse_refl
  grown := ⟨[], Collection.grownBy_refl, by simp [opened, migrated, Worker.migrated]⟩

theorem turn_cases (setting : Setting) (workshop : Workshop) (index : Nat) :
    workshop.turn setting index = workshop ∨
      ∃ before worker rest, workshop.workers = before ++ worker :: rest ∧
        workshop.turn setting index =
          ⟨(worker.advance setting workshop.database).2,
            before ++ (worker.advance setting workshop.database).1 :: rest⟩ := by
  cases found : workshop.workers[index]? with
  | none =>
      left
      rw [turn, found]
  | some worker =>
      right
      obtain ⟨bound, here⟩ := List.getElem?_eq_some_iff.mp found
      obtain ⟨before, rest, split, _, replaced⟩ :=
        @List.exists_of_set _ index (worker.advance setting workshop.database).1 _ bound
      rw [here] at split
      refine ⟨before, worker, rest, split, ?_⟩
      rw [turn, found, ← replaced]

theorem Consistent.turn (consistent : workshop.Consistent start setting.targetRules)
    (orderly : setting.Orderly) (proper : ∀ delivery ∈ start.deliveries, delivery.Proper) (index : Nat) :
    (workshop.turn setting index).Consistent start setting.targetRules := by
  rcases turn_cases setting workshop index with idle | ⟨before, worker, rest, split, moved⟩
  · rw [idle]
    exact consistent
  · obtain ⟨alike, ready, settled, onCourse, added, grown, counted⟩ := consistent
    rw [split, List.forall_mem_append, List.forall_mem_cons] at ready settled
    obtain ⟨readyBefore, readyHere, readyRest⟩ := ready
    obtain ⟨settledBefore, settledHere, settledRest⟩ := settled
    obtain ⟨nextReady, nextAlike, effect⟩ := worker.effect_advance orderly alike readyHere
    obtain ⟨more, nextGrown, nextCounted⟩ := effect.grown grown
    rw [moved]
    -- The step of one worker unsettles nothing that the others have behind them.
    refine ⟨nextAlike, ?_, ?_, effect.onCourse settledHere onCourse, added ++ more, nextGrown, ?_⟩
    · rw [List.forall_mem_append, List.forall_mem_cons]
      exact ⟨readyBefore, nextReady, readyRest⟩
    · rw [List.forall_mem_append, List.forall_mem_cons]
      exact ⟨fun other member => (settledBefore other member).mono effect.settles,
        effect.settledBy proper settledHere,
        fun other member => (settledRest other member).mono effect.settles⟩
    · rw [migrated, split] at counted
      rw [migrated, List.length_append, counted]
      simp only [List.map_append, List.map_cons, List.sum_append, List.sum_cons, nextCounted]
      omega

theorem Consistent.run (consistent : workshop.Consistent start setting.targetRules)
    (orderly : setting.Orderly) (proper : ∀ delivery ∈ start.deliveries, delivery.Proper)
    (turns : List Nat) : (workshop.run setting turns).Consistent start setting.targetRules := by
  induction turns generalizing workshop with
  | nil => exact consistent
  | cons index rest ih => exact ih (consistent.turn orderly proper index)

theorem length_workers_run (turns : List Nat) :
    (workshop.run setting turns).workers.length = workshop.workers.length := by
  induction turns generalizing workshop with
  | nil => rfl
  | cons index rest ih =>
      have next : (workshop.turn setting index).workers.length = workshop.workers.length := by
        rcases turn_cases setting workshop index with idle | ⟨before, worker, rest, split, moved⟩
        · rw [idle]
        · simp [moved, split]
      exact ih.trans next

/-- Once all workers have gone through their sources, the target holds what it held and documents
with identities that are new and unequal, as many as the workers count together; and every identity
leads to the document to which a single consolidation would have led it. -/
theorem interleaved_consolidations (orderly : setting.Orderly)
    (proper : ∀ delivery ∈ start.deliveries, delivery.Proper)
    (allowed : ∀ delivery ∈ start.deliveries, delivery.AllowedBy setting.targetRules)
    (jobs : Nat) (turns : List Nat)
    (finished : ((opened start jobs).run setting turns).finished = true) :
    (∃ added,
      (start.collection Schema.target).GrownBy added ((opened start jobs).run setting turns).target) ∧
    ((opened start jobs).run setting turns).target.documents.length =
      (start.collection Schema.target).documents.length +
        ((opened start jobs).run setting turns).migrated ∧
    (jobs ≠ 0 → ∀ identity,
      ((opened start jobs).run setting turns).target.document? identity =
        (((Database.consolidate setting).run start).state.collection Schema.target).document? identity) := by
  have consistent := (consistent_opened jobs).run orderly proper turns
  obtain ⟨added, grown, counted⟩ := consistent.grown
  refine ⟨⟨added, grown⟩, ?_, ?_⟩
  · rw [grown.documents, List.length_append, counted]
  · intro some identity
    have workers : ((opened start jobs).run setting turns).workers ≠ [] := by
      intro empty
      have length := @length_workers_run setting (opened start jobs) turns
      rw [empty, opened, List.length_replicate] at length
      exact some length.symm
    obtain ⟨worker, member⟩ := List.exists_mem_of_ne_nil _ workers
    have ended := @Worker.remaining_of_finished start worker (List.all_eq_true.mp finished worker member)
    have settled := (consistent.settled worker member).all ended
    rw [consistent.onCourse.document?_eq settled allowed, Database.state_consolidate orderly,
      Database.collection_consolidated_target]
    exact (Database.document?_consolidatedTarget proper allowed Collection.onCourse_refl identity).symm

theorem interleaved_consolidations_specimen :
    (Setting.refusing [] []).Orderly ∧
      (∀ delivery ∈ Database.specimen.deliveries, delivery.Proper) ∧
      (∀ delivery ∈ Database.specimen.deliveries,
        delivery.AllowedBy (Setting.refusing [] []).targetRules) ∧
      ((opened Database.specimen 2).run (.refusing [] []) ((List.range 24).map (· % 2))).finished = true ∧
      (∃ added, (Database.specimen.collection Schema.target).GrownBy added
        ((opened Database.specimen 2).run (.refusing [] []) ((List.range 24).map (· % 2))).target) ∧
      ((opened Database.specimen 2).run (.refusing [] [])
          ((List.range 24).map (· % 2))).target.documents.length =
        (Database.specimen.collection Schema.target).documents.length +
          ((opened Database.specimen 2).run (.refusing [] []) ((List.range 24).map (· % 2))).migrated ∧
      ((opened Database.specimen 2).run (.refusing [] []) ((List.range 24).map (· % 2))).migrated = 3 ∧
      ((opened Database.specimen 2).run (.refusing [] []) ((List.range 24).map (· % 2))).target.document?
          (.string "b") = some [("_id", .string "b"), ("game", .string "snake")] ∧
      ∀ identity,
        ((opened Database.specimen 2).run (.refusing [] []) ((List.range 24).map (· % 2))).target.document?
            identity =
          (((Database.consolidate (.refusing [] [])).run Database.specimen).state.collection
            Schema.target).document? identity := by
  have allowed : ∀ delivery ∈ Database.specimen.deliveries,
      delivery.AllowedBy (Setting.refusing [] []).targetRules := by decide
  have finished : ((opened Database.specimen 2).run (.refusing [] [])
      ((List.range 24).map (· % 2))).finished = true := by decide +kernel
  obtain ⟨added, growth, same⟩ := interleaved_consolidations Setting.orderly_refusing
    Database.proper_specimen allowed 2 ((List.range 24).map (· % 2)) finished
  have single := same (by decide)
  exact ⟨Setting.orderly_refusing, Database.proper_specimen, allowed, finished, added, growth, by decide +kernel,
    (single _).trans rfl, single⟩

end Workshop
end GameLogs
