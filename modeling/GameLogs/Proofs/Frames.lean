import GameLogs.Proofs.Games
import GameLogs.Proofs.Setting
import GameLogs.Proofs.Sources
namespace GameLogs

/-! What operations on a database leave alone.

They read many collections and write one.  A relation between databases that such reading and writing
respects holds between the database before an operation and the one after it, however it ends.
-/

namespace Source

variable {source : Source} {rules : FailureRules} {cadence : Int} {total count : Nat}

theorem readsOnly_showProgress : (source.showProgress cadence count total).ReadsOnly := by
  unfold showProgress
  split
  · exact Job.readsOnly_pure ()
  · split
    · exact Job.readsOnly_stop _
    · split
      · exact Job.readsOnly_tellAll _
      · exact Job.readsOnly_pure ()

theorem readsOnly_openForReading : (openForReading rules).ReadsOnly :=
  Job.readsOnly_get.bind fun _ => (Job.readsOnly_ofExcept _).bind fun _ =>
    (Job.readsOnly_ofExcept _).bind fun _ => Job.readsOnly_pure _

end Source

namespace Database

/-- A relation that looking at a collection respects, and so does writing the collection of a name, as
long as the change of that collection is allowed. -/
structure Frame (name : String) (allowed : Collection → Collection → Prop)
    (related : Database → Database → Prop) : Prop where
  refl : ∀ database, related database database
  trans : ∀ first second third, related first second → related second third → related first third
  looked : ∀ database other, related database (database.looked other)
  put : ∀ database collection, allowed (database.collection name) collection →
    related database (database.put name collection)

namespace Frame

variable {A B : Type} {name other : String} {allowed : Collection → Collection → Prop}
  {related : Database → Database → Prop} {setting : Setting} {source : Source} {sources : List Source}

theorem reading {job : Job Database A} (frame : Frame name allowed related) (unchanged : job.ReadsOnly) :
    job.Respects related :=
  unchanged.respects frame.refl

theorem bind {job : Job Database A} {next : A → Job Database B} (frame : Frame name allowed related)
    (first : job.Respects related) (second : ∀ value, (next value).Respects related) :
    (job >>= next).Respects related :=
  first.bind frame.trans second

theorem onReading {job : Job Collection A} (frame : Frame name allowed related)
    (unchanged : job.ReadsOnly) : (on other job).Respects related := by
  intro database
  rw [on, Job.run_within, unchanged]
  exact frame.looked database other

theorem onWriting {job : Job Collection A} (frame : Frame name allowed related)
    (kept : job.Respects allowed) : (on name job).Respects related :=
  fun database => frame.put database _ (kept _)

theorem discard {job : Job Database A} (frame : Frame name allowed related) (kept : job.Respects related) :
    (do
      let _ ← job
      return () : Job Database Unit).Respects related :=
  frame.bind kept fun _ => frame.reading (Job.readsOnly_pure _)

theorem copyTo (frame : Frame name allowed related)
    (copied : ∀ total cursor,
      (source.copyCursor (setting.failures.of name) setting.cadence total cursor).Respects allowed) :
    (source.copyTo setting name).Respects related := by
  refine frame.bind (frame.onReading (Job.readsOnly_pure ())) fun _ => ?_
  refine frame.bind (frame.onReading Source.readsOnly_openForReading) fun opened => ?_
  exact frame.onWriting (copied _ _)

theorem copyNamed (frame : Frame Schema.target allowed related)
    (copied : ∀ total cursor,
      (source.copyCursor setting.targetRules setting.cadence total cursor).Respects allowed) :
    (do
      let tally ← source.copyTo setting Schema.target
      return (source.name, tally) : Job Database (String × Tally)).Respects related :=
  frame.bind (frame.copyTo copied) fun _ => frame.reading (Job.readsOnly_pure _)

theorem copySources (frame : Frame Schema.target allowed related)
    (copied : ∀ (source : Source) total cursor,
      (source.copyCursor setting.targetRules setting.cadence total cursor).Respects allowed) :
    (copySources setting sources).Respects related := by
  induction sources with
  | nil => exact frame.reading (Job.readsOnly_pure [])
  | cons source rest ih =>
      rw [Database.copySources, List.mapM_cons]
      refine frame.bind (frame.copyNamed (copied source)) fun _ => frame.bind ih fun _ => ?_
      exact frame.reading (Job.readsOnly_pure _)

/-- A consolidation writes the target alone, so that only what it does there has to be allowed. -/
theorem consolidate (frame : Frame Schema.target allowed related)
    (copied : ∀ (source : Source) total cursor,
      (source.copyCursor setting.targetRules setting.cadence total cursor).Respects allowed)
    (indexed : (buildIndexes setting.targetRules IndexRequest.configured).Respects allowed) :
    (consolidate setting).Respects related := by
  refine frame.bind (frame.onReading (Job.readsOnly_pure ())) fun _ => ?_
  refine frame.bind (frame.reading Job.readsOnly_get) fun _ => ?_
  refine frame.bind (frame.reading (Job.readsOnly_tellAll _)) fun _ => ?_
  refine frame.bind (frame.copySources copied) fun _ => ?_
  refine frame.bind (frame.reading (Job.readsOnly_tellAll _)) fun _ => ?_
  refine frame.bind (frame.onWriting indexed) fun _ => ?_
  refine frame.bind (frame.onReading readsOnly_countDocuments) fun counted => ?_
  refine frame.bind (frame.reading (Job.readsOnly_tellAll _)) fun _ => ?_
  exact frame.reading (Job.readsOnly_pure _)

end Frame

variable {setting : Setting}

/-- Whatever happens to the target, everything beside it stays. -/
theorem frame_alikeBesideTarget :
    Frame Schema.target (fun _ _ => True) fun before after => after.AlikeBesideTarget before where
  refl _ := .refl
  trans _ _ _ earlier later := later.trans earlier
  looked _ _ := alikeBesideTarget_looked
  put _ _ _ := alikeBesideTarget_put

/-- A consolidation changes nothing beside the target, however it ends. -/
theorem alikeBesideTarget_consolidate :
    (consolidate setting).Respects fun before after => after.AlikeBesideTarget before :=
  frame_alikeBesideTarget.consolidate (fun _ _ _ _ => trivial) fun _ => trivial

end Database
end GameLogs
