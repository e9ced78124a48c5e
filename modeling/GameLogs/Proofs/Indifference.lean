import GameLogs.Proofs.Consolidation
import GameLogs.Proofs.Survey
namespace GameLogs

/-! Operations that run alike on related states.

A consolidation and a survey are indifferent to everything but the target and the documents of the
sources: on databases that agree in these they end alike, tell the same, and leave databases that agree
again.  This holds under any setting, also when an error stops them.
-/

namespace Job

variable {State A B : Type} {related : State → State → Prop}

/-- On related states an operation ends alike, tells the same, and leaves related states. -/
def Indifferent (related : State → State → Prop) (job : Job State A) : Prop :=
  ∀ first second, related first second →
    (job.run first).result = (job.run second).result ∧
      related (job.run first).state (job.run second).state ∧
      (job.run first).notices = (job.run second).notices

theorem indifferent_eq (job : Job State A) : job.Indifferent Eq := by
  rintro state _ rfl
  exact ⟨rfl, rfl, rfl⟩

/-- An operation that neither reads nor writes the state. -/
theorem indifferent_of_run {job : Job State A} {result : Except Error A} {notices : List Notice}
    (ran : ∀ state, job.run state = ⟨result, state, notices⟩) : job.Indifferent related := by
  intro first second same
  rw [ran, ran]
  exact ⟨rfl, same, rfl⟩

theorem indifferent_pure (value : A) : (pure value : Job State A).Indifferent related :=
  indifferent_of_run fun _ => rfl

theorem indifferent_ofExcept (result : Except Error A) : (ofExcept result).Indifferent related :=
  indifferent_of_run fun _ => rfl

theorem indifferent_tellAll (notices : List Notice) : (tellAll notices).Indifferent related :=
  indifferent_of_run fun _ => rfl

theorem Indifferent.bind {job : Job State A} {next : A → Job State B} (first : job.Indifferent related)
    (second : ∀ value, (next value).Indifferent related) : (job >>= next).Indifferent related := by
  intro one other same
  have agreed := first one other same
  rw [run_bind, run_bind]
  generalize job.run one = begun at agreed ⊢
  generalize job.run other = alsoBegun at agreed ⊢
  obtain ⟨result, state, notices⟩ := begun
  obtain ⟨another, after, others⟩ := alsoBegun
  obtain ⟨rfl, moved, rfl⟩ : result = another ∧ related state after ∧ notices = others := agreed
  cases result with
  | error error => exact ⟨rfl, moved, rfl⟩
  | ok value =>
      obtain ⟨ended, left, told⟩ := second value state after moved
      exact ⟨ended, left, congrArg (notices ++ ·) told⟩

/-- An operation that begins with reading the state, and sees the same of related states. -/
theorem Indifferent.afterGet {next : State → Job State A}
    (seen : ∀ first second, related first second → next first = next second)
    (each : ∀ state, (next state).Indifferent related) : (get >>= next).Indifferent related := by
  intro first second same
  have continued := each second first second same
  rw [run_bind, run_bind, run_get, run_get]
  simp only [Outcome.andThen, seen first second same, List.nil_append]
  exact continued

theorem Indifferent.mapM {elements : List A} {job : A → Job State B}
    (each : ∀ element ∈ elements, (job element).Indifferent related) :
    (elements.mapM job).Indifferent related := by
  induction elements with
  | nil => exact indifferent_pure []
  | cons element rest ih =>
      obtain ⟨first, later⟩ := List.forall_mem_cons.mp each
      rw [List.mapM_cons]
      exact first.bind fun _ => (ih later).bind fun _ => indifferent_pure _

/-- An operation on a collection is indifferent to what does not show in that collection. -/
theorem Indifferent.on {name : String} {job : Job Collection A} {inner : Collection → Collection → Prop}
    {related : Database → Database → Prop} (job_indifferent : job.Indifferent inner)
    (seen : ∀ first second, related first second → inner (first.collection name) (second.collection name))
    (kept : ∀ first second one other, related first second → inner one other →
      related (first.put name one) (second.put name other)) :
    (Database.on name job).Indifferent related := by
  intro first second same
  obtain ⟨ended, moved, told⟩ := job_indifferent _ _ (seen first second same)
  exact ⟨ended, kept first second _ _ same moved, told⟩

end Job

namespace Collection

variable {first second : Collection} {rules : FailureRules} {filter : Filter}

def SameDocuments (first second : Collection) : Prop := first.documents = second.documents

theorem SameDocuments.find_eq (same : first.SameDocuments second) :
    first.find rules filter = second.find rules filter := by
  rw [find, find, same]

theorem SameDocuments.count_eq (same : first.SameDocuments second) :
    first.count rules filter = second.count rules filter := by
  rw [count, count, same]

end Collection

namespace Source

variable {source : Source} {rules : FailureRules} {limit : Int}

theorem indifferent_openForReading : (openForReading rules).Indifferent Collection.SameDocuments := by
  refine Job.Indifferent.afterGet (fun first second same => ?_) fun collection => ?_
  · rw [same.count_eq, same.find_eq]
  · exact (Job.indifferent_ofExcept _).bind fun _ => (Job.indifferent_ofExcept _).bind fun _ =>
      Job.indifferent_pure _

theorem indifferent_survey : (source.survey rules limit).Indifferent Collection.SameDocuments := by
  refine Job.Indifferent.afterGet (fun first second same => ?_) fun collection => ?_
  · rw [same.find_eq]
  · exact (Job.indifferent_ofExcept _).bind fun _ => (Job.indifferent_ofExcept _).bind fun _ =>
      Job.indifferent_pure _

end Source

namespace Database

variable {setting : Setting} {first second : Database} {source : Source} {sources : List Source}
  {name : String} {one other : Collection} {plan : FailurePlan} {limit : Int}

/-- Some sources have the same documents in both databases. -/
def ReadAlike (sources : List Source) (first second : Database) : Prop :=
  ∀ source ∈ sources, (first.collection source.name).SameDocuments (second.collection source.name)

/-- Two databases have the same target, and some sources have the same documents in both. -/
structure CopyAlike (sources : List Source) (first second : Database) : Prop where
  target : first.collection Schema.target = second.collection Schema.target
  sources : ReadAlike sources first second

theorem ReadAlike.put (alike : ReadAlike sources first second) (same : one.SameDocuments other) :
    ReadAlike sources (first.put name one) (second.put name other) := by
  intro source member
  by_cases changed : source.name = name
  · rw [changed, collection_put_self, collection_put_self]
    exact same
  · rw [collection_put_of_ne changed, collection_put_of_ne changed]
    exact alike source member

theorem CopyAlike.put (alike : CopyAlike sources first second) (different : Schema.target ≠ name)
    (same : one.SameDocuments other) : CopyAlike sources (first.put name one) (second.put name other) where
  target := by
    rw [collection_put_of_ne different, collection_put_of_ne different, alike.target]
  sources := alike.sources.put same

theorem CopyAlike.put_target (alike : CopyAlike sources first second) :
    CopyAlike sources (first.put Schema.target one) (second.put Schema.target one) where
  target := by rw [collection_put_self, collection_put_self]
  sources := alike.sources.put rfl

theorem indifferent_on_target {A : Type} (job : Job Collection A) :
    (on Schema.target job).Indifferent (CopyAlike sources) := by
  refine (Job.indifferent_eq job).on (fun _ _ alike => alike.target) ?_
  rintro _ _ one _ alike rfl
  exact alike.put_target

theorem indifferent_copyTo (member : source ∈ sources) (foreign : source.name ≠ Schema.target) :
    (source.copyTo setting Schema.target).Indifferent (CopyAlike sources) := by
  refine (indifferent_on_target _).bind fun _ => ?_
  refine Job.Indifferent.bind ?_ fun opened => indifferent_on_target _
  exact Source.indifferent_openForReading.on (fun _ _ alike => alike.sources source member)
    fun _ _ _ _ alike same => alike.put (Ne.symm foreign) same

theorem indifferent_consolidateSources (foreign : ∀ source ∈ sources, source.name ≠ Schema.target) :
    (consolidateSources setting sources).Indifferent (CopyAlike sources) := by
  refine Job.Indifferent.bind (Job.Indifferent.mapM fun source member => ?_) fun tallies => ?_
  · exact (indifferent_copyTo member (foreign source member)).bind fun _ => Job.indifferent_pure _
  · refine (Job.indifferent_tellAll _).bind fun _ => ?_
    refine (indifferent_on_target _).bind fun indexes => ?_
    refine (indifferent_on_target _).bind fun counted => ?_
    exact (Job.indifferent_tellAll _).bind fun _ => Job.indifferent_pure _

theorem indifferent_surveyAndReport (member : source ∈ sources) :
    (source.surveyAndReport plan limit).Indifferent (ReadAlike sources) := by
  refine Job.Indifferent.bind ?_ fun survey => ?_
  · exact Source.indifferent_survey.on (fun _ _ alike => alike source member)
      fun _ _ _ _ alike same => alike.put same
  · exact (Job.indifferent_of_run fun _ => Source.run_report).bind fun _ => Job.indifferent_pure _

end Database
end GameLogs
