import GameLogs.Proofs.Frames
import GameLogs.Proofs.Indexes
import GameLogs.Proofs.Interruption
namespace GameLogs

/-! Consolidations under any setting.

However a consolidation ends, it has changed nothing beside the target, and the target holds what an
interrupted one leaves: the first deliveries have been offered to it.
-/

/-- An operation has offered the first of some deliveries to the collection that is viewed, and all
of them if it comes to its end. -/
structure Outcome.Delivers {State A : Type} (view : State → Collection) (rules : FailureRules)
    (deliveries : List Delivery) (before : State) (outcome : Outcome State A) : Prop where
  reached : ∃ reach, view outcome.state = (view before).receive rules (deliveries.take reach)
  complete : ∀ value, outcome.result = .ok value →
    view outcome.state = (view before).receive rules deliveries

namespace Outcome

variable {State A B : Type} {view : State → Collection} {rules : FailureRules}
  {deliveries others : List Delivery} {before : State} {outcome : Outcome State A}

theorem delivers_of_received (received : view outcome.state = (view before).receive rules deliveries) :
    outcome.Delivers view rules deliveries before where
  reached := ⟨deliveries.length, by rw [received, List.take_length]⟩
  complete _ _ := received

private theorem take_of_append (reach : Nat) :
    (deliveries ++ others).take (min reach deliveries.length) = deliveries.take reach := by
  rw [List.take_append_of_le_length (Nat.min_le_right _ _), ← List.take_take, List.take_length]

theorem Delivers.andThen {next : A → State → Outcome State B}
    (first : outcome.Delivers view rules deliveries before)
    (second : ∀ value, outcome.result = .ok value →
      (next value outcome.state).Delivers view rules others outcome.state) :
    (outcome.andThen next).Delivers view rules (deliveries ++ others) before := by
  obtain ⟨result, middle, notices⟩ := outcome
  cases result with
  | error error =>
      obtain ⟨reach, reached⟩ := first.reached
      refine ⟨⟨min reach deliveries.length, ?_⟩, fun _ ended => by cases ended⟩
      rw [take_of_append]
      exact reached
  | ok value =>
      have received := first.complete value rfl
      obtain ⟨⟨reach, reached⟩, complete⟩ := second value rfl
      refine ⟨⟨deliveries.length + reach, ?_⟩, fun last ended => ?_⟩
      · rw [List.take_length_add_append, Collection.receive_append, ← received]
        exact reached
      · rw [Collection.receive_append, ← received]
        exact complete last ended

/-- The deliveries of an operation that does not come to its end may be the first of more. -/
theorem Delivers.extend (first : outcome.Delivers view rules deliveries before)
    (whole : ∀ value, outcome.result = .ok value → others = []) :
    outcome.Delivers view rules (deliveries ++ others) before where
  reached := by
    obtain ⟨reach, reached⟩ := first.reached
    refine ⟨min reach deliveries.length, ?_⟩
    rw [take_of_append]
    exact reached
  complete value ended := by
    rw [whole value ended, List.append_nil]
    exact first.complete value ended

theorem delivers_nil (unchanged : view outcome.state = view before) :
    outcome.Delivers view rules [] before :=
  delivers_of_received unchanged

theorem Delivers.followed {next : A → State → Outcome State B}
    (first : outcome.Delivers view rules deliveries before)
    (silent : ∀ value, view (next value outcome.state).state = view outcome.state) :
    (outcome.andThen next).Delivers view rules deliveries before := by
  have ended : (outcome.andThen next).Delivers view rules (deliveries ++ []) before :=
    first.andThen fun value _ => delivers_nil (silent value)
  rwa [List.append_nil] at ended

theorem Delivers.preceded {next : A → State → Outcome State B} (unchanged : view outcome.state = view before)
    (second : ∀ value, outcome.result = .ok value →
      (next value outcome.state).Delivers view rules deliveries outcome.state) :
    (outcome.andThen next).Delivers view rules deliveries before :=
  (delivers_nil unchanged).andThen second

end Outcome

namespace Source

variable {source : Source} {rules : FailureRules} {cadence : Int} {total count : Nat} {tally : Tally}
  {doc : Document} {docs : List Document} {cursor : Cursor} {target : Collection}

theorem delivers_copyDocument :
    ((source.copyDocument rules cadence total count tally doc).run target).Delivers id rules
      [⟨source, doc⟩] target := by
  have offered : ((Insertion.perform rules (source.canonical doc)).run target).Delivers id rules
      [⟨source, doc⟩] target := Outcome.delivers_of_received rfl
  have silent : ∀ insertion : Insertion, (do
      Job.tellAll (source.warnings doc insertion)
      source.showProgress cadence count total
      return tally.add insertion : Job Collection Tally).ReadsOnly := fun insertion =>
    (Job.readsOnly_tellAll _).bind fun _ => readsOnly_showProgress.bind fun _ => Job.readsOnly_pure _
  exact offered.followed fun insertion => silent insertion _

theorem delivers_copyDocuments :
    ((source.copyDocuments rules cadence total count tally docs).run target).Delivers id rules
      (docs.map (Delivery.mk source)) target := by
  induction docs generalizing count tally target with
  | nil => exact Outcome.delivers_nil rfl
  | cons doc rest ih => exact delivers_copyDocument.andThen fun _ _ => ih

/-- A source is copied as far as its cursor goes, and to its end if no fault stops the cursor. -/
theorem delivers_copyCursor (first : cursor.documents <+: docs)
    (whole : cursor.fault? = none → cursor.documents = docs) :
    ((source.copyCursor rules cadence total cursor).run target).Delivers id rules
      (docs.map (Delivery.mk source)) target := by
  have copied := @delivers_copyDocuments source rules cadence total 0 .zero cursor.documents target
  rw [copyCursor, Job.run_bind]
  cases stopped : cursor.fault? with
  | none =>
      rw [← whole stopped]
      exact copied.followed fun tally => by simp [Outcome.andThen]
  | some fault =>
      obtain ⟨rest, rfl⟩ := first
      rw [List.map_append]
      refine (copied.followed fun tally => rfl).extend fun tally ended => ?_
      rcases reading : (source.copyDocuments rules cadence total 0 .zero cursor.documents).run target with
        ⟨_ | _, _, _⟩ <;> rw [reading] at ended <;> cases ended

theorem documents_of_openForReading {collection : Collection}
    (opened : ((openForReading rules).run collection).result = .ok (total, cursor)) :
    cursor.documents <+: collection.documents ∧
      (cursor.fault? = none → cursor.documents = collection.documents) := by
  have all : Filter.all.accepts = fun _ => true := rfl
  cases counted : rules.countFault? with
  | some fault => simp [openForReading, Collection.count, counted, Outcome.andThen] at opened
  | none =>
      cases found : rules.findFault? with
      | some fault =>
          simp [openForReading, Collection.count, counted, Collection.find, found, Outcome.andThen] at opened
      | none =>
          simp only [openForReading, Collection.count, counted, Collection.find, found, Job.run_bind,
            Job.run_get, Job.run_ofStore_ok, Job.run_pure, Outcome.andThen, Except.ok.injEq,
            Prod.mk.injEq, all, List.filter_true] at opened
          obtain ⟨_, rfl⟩ := opened
          exact ⟨Cursor.ofDocumentsFrom_prefix 0, Cursor.documents_of_unstopped⟩

end Source

namespace Database

variable {setting : Setting} {database : Database} {source : Source} {sources : List Source}

theorem delivers_on_target {A : Type} {job : Job Collection A} {rules : FailureRules}
    {deliveries : List Delivery}
    (offered : (job.run (database.collection Schema.target)).Delivers id rules deliveries
      (database.collection Schema.target)) :
    ((on Schema.target job).run database).Delivers (·.collection Schema.target) rules deliveries database := by
  obtain ⟨⟨reach, reached⟩, complete⟩ := offered
  refine ⟨⟨reach, ?_⟩, fun value ended => ?_⟩
  · rw [collection_on_self]
    exact reached
  · rw [collection_on_self]
    exact complete value ended

theorem delivers_copyTo :
    ((source.copyTo setting Schema.target).run database).Delivers (·.collection Schema.target)
      setting.targetRules (database.batch source) database := by
  rw [Source.copyTo, Job.run_bind]
  refine Outcome.Delivers.preceded collection_looked fun _ _ => ?_
  rw [Job.run_bind]
  refine Outcome.Delivers.preceded ?_ fun opened ended => ?_
  · rw [on, Job.run_within, Source.readsOnly_openForReading]
    exact collection_looked
  · obtain ⟨first, whole⟩ := Source.documents_of_openForReading ended
    have stored : (((look Schema.target).run database).state.collection source.name).documents =
        (database.collection source.name).documents := congrArg Collection.documents collection_looked
    rw [stored] at first whole
    exact delivers_on_target (Source.delivers_copyCursor first whole)

theorem delivers_copySources (foreign : ∀ source ∈ sources, source.name ≠ Schema.target) :
    ((copySources setting sources).run database).Delivers (·.collection Schema.target)
      setting.targetRules (sources.flatMap database.batch) database := by
  induction sources generalizing database with
  | nil => exact Outcome.delivers_nil rfl
  | cons source rest ih =>
      obtain ⟨_, later⟩ := List.forall_mem_cons.mp foreign
      have first : ((do
          let tally ← source.copyTo setting Schema.target
          return (source.name, tally) : Job Database (String × Tally)).run database).Delivers
            (·.collection Schema.target) setting.targetRules (database.batch source) database :=
        delivers_copyTo.followed fun _ => rfl
      have alike := @Frame.copyNamed _ _ setting source frame_alikeBesideTarget (fun _ _ _ => trivial) database
      rw [copySources, List.mapM_cons, List.flatMap_cons, Job.run_bind, ← alike.batches_eq later]
      exact first.andThen fun _ _ => (ih later).followed fun _ => rfl

private theorem frame_documents :
    Frame Schema.target (fun before after => after.documents = before.documents) fun before after =>
      (after.collection Schema.target).documents = (before.collection Schema.target).documents where
  refl _ := rfl
  trans _ _ _ earlier later := later.trans earlier
  looked _ _ := by rw [collection_looked]
  put _ _ kept := by rw [collection_put_self, kept]

private theorem documents_conclude {rules : FailureRules} {tallies : List (String × Tally)} :
    (conclude rules tallies).Respects fun before after =>
      (after.collection Schema.target).documents = (before.collection Schema.target).documents := by
  refine frame_documents.bind (frame_documents.reading (Job.readsOnly_tellAll _)) fun _ => ?_
  refine frame_documents.bind (frame_documents.onWriting documents_buildIndexes) fun _ => ?_
  refine frame_documents.bind (frame_documents.onReading readsOnly_countDocuments) fun counted => ?_
  refine frame_documents.bind (frame_documents.reading (Job.readsOnly_tellAll _)) fun _ => ?_
  exact frame_documents.reading (Job.readsOnly_pure _)

theorem documents_consolidate (setting : Setting) (database : Database) :
    (((consolidate setting).run database).state.collection Schema.target).documents =
      (((copySources setting database.sources).run (database.looked Schema.target)).state.collection
        Schema.target).documents := by
  rw [run_consolidate_eq, consolidateSources, Job.run_bind]
  rcases (copySources setting database.sources).run (database.looked Schema.target) with
    ⟨error | tallies, copied, notices⟩
  · rfl
  · exact documents_conclude copied

/-- Every consolidation, under whatever setting and however it ends, leaves the documents that an
interrupted one leaves. -/
theorem exists_documents_interrupted (setting : Setting) (database : Database) :
    ∃ reach, (((consolidate setting).run database).state.collection Schema.target).documents =
      ((database.interrupted ⟨setting.targetRules, reach⟩).collection Schema.target).documents := by
  have copied := @delivers_copySources setting (database.looked Schema.target) database.sources
    fun _ => name_ne_target_of_mem_sources
  rw [alikeBesideTarget_looked.batches_eq fun _ => name_ne_target_of_mem_sources] at copied
  obtain ⟨reach, reached⟩ := copied.reached
  refine ⟨reach, ?_⟩
  rw [collection_looked] at reached
  rw [documents_consolidate, reached, collection_interrupted_target]
  rfl

end Database
end GameLogs
