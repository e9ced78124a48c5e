import GameLogs.Proofs.Destination
import GameLogs.Proofs.Sources
import GameLogs.Proofs.Tallies
import Mathlib.Algebra.Ring.Nat
namespace GameLogs

/-! Consolidations that go on step by step.

A worker is a consolidation between two operations on the store.  A step looks for the sources, opens
one of them, copies one of its documents, or closes it.  To the target a step is either nothing or the
offer of the next delivery.
-/

/-- A source that is being read: the tally so far, and what is left of the source. -/
structure Reading where
  source : Source
  total : Nat
  count : Nat
  tally : Tally
  rest : Cursor

inductive Worker where
  | waiting
  | copying (closed : List (String × Tally)) (reading? : Option Reading) (later : List Source)
  | stopped (error : Error)

def Reading.deliveries (reading : Reading) : List Delivery :=
  reading.rest.documents.map (Delivery.mk reading.source)

namespace Worker

def step (setting : Setting) : Worker → Job Database Worker
  | .waiting => do
      Database.look Schema.target
      let database ← Job.get
      return .copying [] none database.sources
  | .copying closed none (source :: later) => do
      Database.look Schema.target
      let (total, cursor) ←
        Database.on source.name (Source.openForReading (setting.failures.of source.name))
      return .copying closed (some ⟨source, total, 0, .zero, cursor⟩) later
  | .copying closed (some ⟨source, total, count, tally, ⟨doc :: docs, fault?⟩⟩) later => do
      let tally ← Database.on Schema.target
        (source.copyDocument setting.targetRules setting.cadence total (count + 1) tally doc)
      return .copying closed (some ⟨source, total, count + 1, tally, ⟨docs, fault?⟩⟩) later
  | .copying _ (some ⟨_, _, _, _, ⟨[], some fault⟩⟩) _ => Job.stop (.store fault)
  | .copying closed (some ⟨source, _, count, tally, ⟨[], none⟩⟩) later => do
      Job.tellAll (source.closingNotices setting.cadence count tally)
      return .copying (closed ++ [(source.name, tally)]) none later
  | .copying closed none [] => return .copying closed none []
  | .stopped error => return .stopped error

def advance (setting : Setting) (worker : Worker) (database : Database) : Worker × Database :=
  match (worker.step setting).run database with
  | ⟨.ok next, after, _⟩ => (next, after)
  | ⟨.error error, after, _⟩ => (.stopped error, after)

def finished : Worker → Bool
  | .copying _ none [] => true
  | _ => false

/-- The deliveries that the worker has yet to make, if the sources are those of a database. -/
def remaining (database : Database) : Worker → List Delivery
  | .waiting => database.deliveries
  | .copying _ reading? later => (reading?.elim [] Reading.deliveries) ++ later.flatMap database.batch
  | .stopped _ => []

def migrated : Worker → Nat
  | .copying closed reading? _ =>
      (closed.map fun source => source.2.migrated).sum +
        reading?.elim 0 fun reading => reading.tally.migrated
  | _ => 0

def Ready : Worker → Prop
  | .waiting => True
  | .copying _ reading? later =>
      (∀ reading ∈ reading?, reading.rest.fault? = none) ∧ ∀ source ∈ later, source.name ≠ Schema.target
  | .stopped _ => False

/-- What a step does to the target: nothing, or the offer of the delivery that is next. -/
inductive Effect (start : Database) (rules : FailureRules) (worker next : Worker)
    (target after : Collection) : Prop where
  | silent (remaining : next.remaining start = worker.remaining start)
      (migrated : next.migrated = worker.migrated) (unchanged : after = target)
  | delivery (delivery : Delivery)
      (remaining : worker.remaining start = delivery :: next.remaining start)
      (migrated : next.migrated =
        worker.migrated + if target.accepts rules delivery.canonical then 1 else 0)
      (offered : after = target.offer rules delivery.canonical)

/-- Whatever the worker has behind it is settled by the target. -/
def SettledBy (start : Database) (rules : FailureRules) (target : Collection) (worker : Worker) : Prop :=
  ∃ passed, start.deliveries = passed ++ worker.remaining start ∧
    ∀ delivery ∈ passed, target.Settles rules delivery

variable {setting : Setting} {start database : Database} {rules : FailureRules} {worker next : Worker}
  {initial target after : Collection}

theorem SettledBy.mono (settled : worker.SettledBy start rules target)
    (kept : ∀ delivery, target.Settles rules delivery → after.Settles rules delivery) :
    worker.SettledBy start rules after := by
  obtain ⟨passed, place, behind⟩ := settled
  exact ⟨passed, place, fun delivery member => kept delivery (behind delivery member)⟩

/-- A worker with nothing before it leaves all deliveries settled. -/
theorem SettledBy.all (settled : worker.SettledBy start rules target)
    (ended : worker.remaining start = []) : ∀ delivery ∈ start.deliveries, target.Settles rules delivery := by
  obtain ⟨passed, place, behind⟩ := settled
  rw [place, ended, List.append_nil]
  exact behind

namespace Effect

theorem settles (effect : Effect start rules worker next target after) (delivery : Delivery)
    (settled : target.Settles rules delivery) : after.Settles rules delivery := by
  cases effect with
  | silent _ _ unchanged =>
      rw [unchanged]
      exact settled
  | delivery _ _ _ offered =>
      rw [offered]
      exact settled.offer

theorem settledBy (effect : Effect start rules worker next target after)
    (proper : ∀ delivery ∈ start.deliveries, delivery.Proper)
    (settled : worker.SettledBy start rules target) : next.SettledBy start rules after := by
  obtain ⟨passed, place, behind⟩ := settled.mono effect.settles
  cases effect with
  | silent remaining _ _ => exact ⟨passed, by rw [place, remaining], behind⟩
  | delivery delivery remaining _ offered =>
      have present : delivery ∈ start.deliveries := by
        rw [place, remaining]
        exact List.mem_append_right _ List.mem_cons_self
      refine ⟨passed ++ [delivery], by rw [place, remaining, List.append_assoc]; rfl, ?_⟩
      intro other member
      rcases List.mem_append.mp member with earlier | last
      · exact behind other earlier
      · obtain rfl := List.mem_singleton.mp last
        rw [offered]
        exact Collection.settles_offer (proper other present)

theorem onCourse (effect : Effect start rules worker next target after)
    (settled : worker.SettledBy start rules target)
    (onCourse : initial.OnCourse start.deliveries target) : initial.OnCourse start.deliveries after := by
  obtain ⟨passed, place, behind⟩ := settled
  cases effect with
  | silent _ _ unchanged =>
      rw [unchanged]
      exact onCourse
  | delivery delivery remaining _ offered =>
      rw [remaining] at place
      rw [offered]
      exact onCourse.offer place behind

theorem grown (effect : Effect start rules worker next target after) {added : List Document}
    (grown : initial.GrownBy added target) :
    ∃ more, initial.GrownBy (added ++ more) after ∧ next.migrated = worker.migrated + more.length := by
  cases effect with
  | silent _ migrated unchanged =>
      refine ⟨[], ?_, migrated⟩
      rw [unchanged, List.append_nil]
      exact grown
  | delivery delivery _ migrated offered =>
      refine ⟨_, offered ▸ grown.offer, ?_⟩
      rw [migrated]
      split <;> rfl

end Effect

theorem advance_of_run {next : Worker} {after : Database} {notices : List Notice}
    (ran : (worker.step setting).run database = ⟨.ok next, after, notices⟩) :
    worker.advance setting database = (next, after) := by
  rw [advance, ran]

theorem advance_waiting : waiting.advance setting database =
    (.copying [] none database.sources, database.looked Schema.target) := by
  apply advance_of_run
  rw [← Database.alikeBesideTarget_looked.sources_eq]
  exact Job.run_bind_of_silent Database.run_look (Job.run_bind_of_silent Job.run_get (Job.run_pure _))

variable {closed : List (String × Tally)} {source : Source} {later : List Source} {total count : Nat}
  {tally : Tally} {doc : Document} {docs : List Document} {fault? : Option Fault}

theorem advance_opening (readable : setting.Readable) :
    (copying closed none (source :: later)).advance setting database =
      (.copying closed
          (some ⟨source, (database.collection source.name).documents.length, 0, .zero,
            ⟨(database.collection source.name).documents, none⟩⟩) later,
        (database.looked Schema.target).looked source.name) := by
  have opened := @Database.run_on_openForReading setting (database.looked Schema.target) source readable
  rw [Database.collection_looked] at opened
  apply advance_of_run
  exact Job.run_bind_of_silent Database.run_look (Job.run_bind_of_silent opened (Job.run_pure _))

theorem advance_copying (orderly : setting.Orderly) :
    (copying closed (some ⟨source, total, count, tally, ⟨doc :: docs, fault?⟩⟩) later).advance setting
        database =
      (.copying closed
          (some ⟨source, total, count + 1,
            tally.add (Insertion.judge setting.targetRules (database.collection Schema.target)
              (source.canonical doc)), ⟨docs, fault?⟩⟩) later,
        database.put Schema.target
          ((database.collection Schema.target).offer setting.targetRules (source.canonical doc))) := by
  have copied := Database.run_on_of_run (@Source.run_copyDocument source setting.targetRules
    setting.cadence total (count + 1) tally (database.collection Schema.target) doc
    (orderly.insertion.obstacle?_eq_none doc) orderly.cadence)
  apply advance_of_run
  exact Job.run_bind_of_ok copied (Job.run_pure _)

theorem advance_closing :
    (copying closed (some ⟨source, total, count, tally, ⟨[], none⟩⟩) later).advance setting database =
      (.copying (closed ++ [(source.name, tally)]) none later, database) := by
  apply advance_of_run
  exact Job.run_tellAll_pure _ _

/-- A worker that is ready stays so.  Its step touches no source, and its effect on the target is
counted. -/
theorem effect_advance (orderly : setting.Orderly) (alike : database.AlikeBesideTarget start)
    (ready : worker.Ready) :
    (worker.advance setting database).1.Ready ∧
      (worker.advance setting database).2.AlikeBesideTarget start ∧
      Effect start setting.targetRules worker (worker.advance setting database).1
        (database.collection Schema.target)
        ((worker.advance setting database).2.collection Schema.target) := by
  match worker, ready with
  | .waiting, _ =>
      rw [advance_waiting]
      refine ⟨⟨by simp, fun _ => Database.name_ne_target_of_mem_sources⟩,
        Database.alikeBesideTarget_looked.trans alike, .silent ?_ rfl Database.collection_looked⟩
      rw [remaining, remaining, alike.sources_eq]
      rfl
  | .copying closed none (source :: later), ⟨_, foreign⟩ =>
      obtain ⟨first, others⟩ := List.forall_mem_cons.mp foreign
      rw [advance_opening orderly.toReadable]
      refine ⟨⟨by simp, others⟩, Database.alikeBesideTarget_looked.trans
        (Database.alikeBesideTarget_looked.trans alike), .silent ?_ rfl ?_⟩
      · have opened : database.batch source = start.batch source := alike.batch_eq first
        simp only [remaining, Option.elim_some, Option.elim_none, List.nil_append, List.flatMap_cons,
          ← opened]
        rfl
      · rw [Database.collection_looked, Database.collection_looked]
  | .copying closed (some ⟨source, total, count, tally, ⟨doc :: docs, fault?⟩⟩) later, ⟨whole, foreign⟩ =>
      rw [advance_copying orderly]
      refine ⟨⟨?_, foreign⟩, Database.alikeBesideTarget_put.trans alike,
        .delivery ⟨source, doc⟩ rfl ?_ Database.collection_put_self⟩
      · intro reading member
        obtain rfl := Option.some.inj member
        exact whole ⟨source, total, count, tally, ⟨doc :: docs, fault?⟩⟩ rfl
      · simp only [migrated, Option.elim_some, Tally.migrated_add_judge, Nat.add_assoc]
        rfl
  | .copying closed (some ⟨source, total, count, tally, ⟨[], none⟩⟩) later, ⟨_, foreign⟩ =>
      rw [advance_closing]
      refine ⟨⟨by simp, foreign⟩, alike, .silent rfl ?_ rfl⟩
      simp [migrated]
  | .copying closed (some ⟨source, total, count, tally, ⟨[], some fault⟩⟩) later, ⟨whole, _⟩ =>
      cases whole _ rfl
  | .copying closed none [], ready => exact ⟨ready, alike, .silent rfl rfl rfl⟩

theorem remaining_of_finished (ended : worker.finished = true) : worker.remaining start = [] := by
  match worker with
  | .copying closed none [] => rfl

end Worker
end GameLogs
