import GameLogs.Proofs.Frames
import GameLogs.Proofs.Progress
namespace GameLogs

/-! Stores that look identities up by a hash.

As long as every identity has a hash, such a store consolidates like one that compares identities, whatever else
fails in the two.
-/

/-- The same store, but insertions into the target look identities up by a hash. -/
def Setting.hashed (setting : Setting) (hashing : Hashing) : Setting :=
  { setting with failures := (Schema.target, .hashing hashing) :: setting.failures }

variable {hashing : Hashing} {rules : FailureRules} {setting : Setting}

theorem Setting.failures_hashed_of_ne {name : String} (foreign : name ≠ Schema.target) :
    (setting.hashed hashing).failures.of name = setting.failures.of name := by
  simp [hashed, FailurePlan.of, Ne.symm foreign]

theorem Setting.targetRules_hashed :
    (setting.hashed hashing).targetRules = .hashing hashing :: setting.targetRules := by
  simp [hashed, FailurePlan.of]

theorem Insertion.perform_cons_hashing {doc : Document} (clear : doc.hashFault? hashing = none) :
    perform (.hashing hashing :: rules) doc = perform rules doc := by
  cases named : doc.field? Field.identity with
  | none => simp [perform, Document.has, named]
  | some identity =>
      have hashed : hashing.fault? (doc.field Field.identity) = none := by
        rw [Document.hashFault?, named, Option.bind_some] at clear
        rwa [Document.field, named, Option.getD_some]
      have same : ∀ collection, Collection.insert collection (.hashing hashing :: rules) doc =
          collection.insert rules doc := by
        intro collection
        rw [Collection.insert, FailureRules.insertFault?_cons_hashing, hashed, Option.none_or, Collection.insert]
      simp only [perform, same]

namespace Job

variable {State A B : Type} {state : State} {job other : Job State A} {next last : A → Job State B}

/-- Two operations run alike if they begin alike and go on alike from what the beginning leaves. -/
theorem run_bind_congr (first : job.run state = other.run state)
    (second : ∀ value, (other.run state).result = .ok value →
      (next value).run (other.run state).state = (last value).run (other.run state).state) :
    (job >>= next).run state = (other >>= last).run state := by
  rw [run_bind, run_bind, first]
  rcases ended : other.run state with ⟨error | value, after, notices⟩
  · rfl
  · rw [ended] at second
    simp only [Outcome.andThen, second value rfl]

end Job

namespace Source

variable {source : Source} {docs : List Document} {cadence : Int} {total count : Nat} {tally : Tally}

theorem hashFault?_canonical {doc : Document} :
    (source.canonical doc).hashFault? hashing = doc.hashFault? hashing := by
  rw [Document.hashFault?, canonical, Document.field?_canonical_identity, Document.hashFault?]

theorem copyDocuments_cons_hashing (clear : ∀ doc ∈ docs, doc.hashFault? hashing = none) :
    source.copyDocuments (.hashing hashing :: rules) cadence total count tally docs =
      source.copyDocuments rules cadence total count tally docs := by
  induction docs generalizing count tally with
  | nil => rfl
  | cons doc rest ih =>
      obtain ⟨here, later⟩ := List.forall_mem_cons.mp clear
      have copied : source.copyDocument (.hashing hashing :: rules) cadence total (count + 1) tally doc =
          source.copyDocument rules cadence total (count + 1) tally doc := by
        rw [copyDocument, Insertion.perform_cons_hashing (hashFault?_canonical.trans here), copyDocument]
      rw [copyDocuments, copied, copyDocuments]
      exact congrArg _ (funext fun tally => ih later)

end Source

namespace Database

variable {database : Database} {source : Source} {sources : List Source}

theorem run_copyTo_hashed (foreign : source.name ≠ Schema.target)
    (clear : ∀ doc ∈ (database.collection source.name).documents, doc.hashFault? hashing = none) :
    (source.copyTo (setting.hashed hashing) Schema.target).run database =
      (source.copyTo setting Schema.target).run database := by
  rw [Source.copyTo, Setting.failures_hashed_of_ne foreign]
  refine Job.run_bind_congr rfl fun _ _ => Job.run_bind_congr rfl fun opened read => ?_
  -- What is copied has been read from the source, where every identity has a hash.
  have among : opened.2.documents <+: (database.collection source.name).documents := by
    rw [run_look, on, Job.run_within, collection_looked] at read
    exact (Source.documents_of_openForReading read).1
  have copied := @Source.copyDocuments_cons_hashing hashing setting.targetRules source opened.2.documents
    setting.cadence opened.1 0 .zero fun doc member => clear doc (among.subset member)
  have same : source.copyCursor (setting.hashed hashing).targetRules setting.cadence opened.1 opened.2 =
      source.copyCursor setting.targetRules setting.cadence opened.1 opened.2 := by
    rw [Setting.targetRules_hashed, Source.copyCursor, copied, Source.copyCursor]
  exact congrArg (fun job => (on Schema.target job).run _) same

theorem run_copySources_hashed (foreign : ∀ source ∈ sources, source.name ≠ Schema.target)
    (clear : ∀ source ∈ sources, ∀ doc ∈ (database.collection source.name).documents, doc.hashFault? hashing = none) :
    (copySources (setting.hashed hashing) sources).run database = (copySources setting sources).run database := by
  induction sources generalizing database with
  | nil => rfl
  | cons source rest ih =>
      obtain ⟨foreignHere, foreignLater⟩ := List.forall_mem_cons.mp foreign
      obtain ⟨here, later⟩ := List.forall_mem_cons.mp clear
      rw [copySources, copySources, List.mapM_cons, List.mapM_cons]
      refine Job.run_bind_congr (Job.run_bind_congr (run_copyTo_hashed foreignHere here) fun _ _ => rfl) fun tally _ =>
        Job.run_bind_congr (ih foreignLater fun other member => ?_) fun _ _ => rfl
      have alike := @Frame.copyNamed _ _ setting source frame_alikeBesideTarget (fun _ _ _ => trivial) database
      rw [alike.collections other.name (foreignLater other member)]
      exact later other member

/-- A store that looks identities up by a hash consolidates like one that does not, if every identity of the
sources has a hash. -/
theorem run_consolidate_hashed
    (clear : ∀ source ∈ database.sources, ∀ doc ∈ (database.collection source.name).documents,
      doc.hashFault? hashing = none) :
    (consolidate (setting.hashed hashing)).run database = (consolidate setting).run database := by
  have copied : (copySources (setting.hashed hashing) database.sources).run (database.looked Schema.target) =
      (copySources setting database.sources).run (database.looked Schema.target) := by
    refine run_copySources_hashed (fun _ => name_ne_target_of_mem_sources) fun source member => ?_
    rw [collection_looked]
    exact clear source member
  have concluded : ∀ tallies, conclude (setting.hashed hashing).targetRules tallies =
      conclude setting.targetRules tallies := by
    intro tallies
    rw [Setting.targetRules_hashed]
    rfl
  have same : (consolidateSources (setting.hashed hashing) database.sources).run (database.looked Schema.target) =
      (consolidateSources setting database.sources).run (database.looked Schema.target) :=
    Job.run_bind_congr copied fun tallies _ => by rw [concluded]
  rw [run_consolidate_eq, run_consolidate_eq, same]

end Database
end GameLogs
