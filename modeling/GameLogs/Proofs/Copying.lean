import GameLogs.Consolidation.Run
import GameLogs.Proofs.Delivery
import GameLogs.Proofs.Setting
namespace GameLogs

/-! Runs of copying, when nothing fails that stops it.

The whole run is given: the tally, the state that is left, and what is told.
-/

def Tally.addAll (tally : Tally) (insertions : List Insertion) : Tally := insertions.foldl Tally.add tally

def Collection.tally (rules : FailureRules) (target : Collection) (deliveries : List Delivery) : Tally :=
  Tally.zero.addAll (target.verdicts rules deliveries)

namespace Source

variable {source : Source} {rules : FailureRules} {cadence : Int} {total count : Nat} {before : Tally}
  {target : Collection} {doc : Document} {docs : List Document}

def progressNotices (source : Source) (cadence : Int) (count total : Nat) : List Notice :=
  if total ≠ 0 ∧ (count : Int) % cadence = 0 then [.progress source.name count total] else []

/-- What is told while documents that come after `count` others are copied. -/
def copyingNotices (source : Source) (cadence : Int) (total : Nat) :
    Nat → List (Document × Insertion) → List Notice
  | _, [] => []
  | count, (doc, insertion) :: rest =>
      source.warnings doc insertion ++ source.progressNotices cadence (count + 1) total ++
        source.copyingNotices cadence total (count + 1) rest

theorem run_showProgress (cadenced : cadence ≠ 0) :
    (source.showProgress cadence count total).run target =
      ⟨.ok (), target, source.progressNotices cadence count total⟩ := by
  rw [showProgress, progressNotices, if_neg cadenced]
  split
  case isTrue empty => simp [empty]
  case isFalse counted =>
    split
    case isTrue divided => simp [counted, divided]
    case isFalse between => simp [between]

theorem obstacle?_canonical : (source.canonical doc).obstacle? rules = doc.obstacle? rules := by
  rw [Document.obstacle?, canonical, Document.field?_canonical_identity, Document.obstacle?]

theorem run_copyDocument (clear : doc.obstacle? rules = none) (cadenced : cadence ≠ 0) :
    (source.copyDocument rules cadence total count before doc).run target =
      ⟨.ok (before.add (Insertion.judge rules target (source.canonical doc))),
        target.offer rules (source.canonical doc),
        source.warnings doc (Insertion.judge rules target (source.canonical doc)) ++
          source.progressNotices cadence count total⟩ := by
  refine Job.run_bind_of_silent (Insertion.run_perform (obstacle?_canonical.trans clear)) ?_
  refine Job.run_bind_of_ok (Job.run_tellAll _) ?_
  rw [← List.append_nil (source.progressNotices cadence count total)]
  exact Job.run_bind_of_ok (run_showProgress cadenced) (Job.run_pure _)

theorem run_copyDocuments (clear : ∀ doc ∈ docs, doc.obstacle? rules = none) (cadenced : cadence ≠ 0) :
    (source.copyDocuments rules cadence total count before docs).run target =
      ⟨.ok (before.addAll (target.verdicts rules (docs.map (Delivery.mk source)))),
        target.receive rules (docs.map (Delivery.mk source)),
        source.copyingNotices cadence total count
          (docs.zip (target.verdicts rules (docs.map (Delivery.mk source))))⟩ := by
  induction docs generalizing count before target with
  | nil => rfl
  | cons doc rest ih =>
      obtain ⟨first, later⟩ := List.forall_mem_cons.mp clear
      exact Job.run_bind_of_ok (run_copyDocument first cadenced) (ih later)

theorem run_openForReading (collection : Collection) (counted : rules.countFault? = none)
    (found : rules.findFault? = none) (read : ∀ position, rules.cursorFault? position = none) :
    (openForReading rules).run collection =
      ⟨.ok (collection.documents.length, ⟨collection.documents, none⟩), collection, []⟩ := by
  have all : Filter.all.accepts = fun _ => true := rfl
  simp [openForReading, Collection.count, Collection.find, counted, found, all, Outcome.andThen,
    Cursor.ofDocuments, Cursor.limited, Cursor.ofDocumentsFrom_of_free read]

def notices (source : Source) (rules : FailureRules) (cadence : Int) (target : Collection)
    (docs : List Document) : List Notice :=
  source.copyingNotices cadence docs.length 0
      (docs.zip (target.verdicts rules (docs.map (Delivery.mk source)))) ++
    source.closingNotices cadence docs.length (target.tally rules (docs.map (Delivery.mk source)))

theorem run_copyCursor (source : Source) (target : Collection) (docs : List Document)
    (clear : ∀ doc ∈ docs, doc.obstacle? rules = none) (cadenced : cadence ≠ 0) :
    (source.copyCursor rules cadence docs.length ⟨docs, none⟩).run target =
      ⟨.ok (target.tally rules (docs.map (Delivery.mk source))),
        target.receive rules (docs.map (Delivery.mk source)), source.notices rules cadence target docs⟩ := by
  exact Job.run_bind_of_ok (run_copyDocuments clear cadenced) (Job.run_tellAll_pure _ _)

end Source

namespace Database

variable {setting : Setting} {rules : FailureRules} {database other : Database} {source : Source}
  {sources : List Source} {name target : String}

def afterCopying (rules : FailureRules) (target : String) (database : Database) (source : Source) : Database :=
  ((database.looked target).looked source.name).put target
    ((database.collection target).receive rules (database.batch source))

@[simp] theorem collection_afterCopying_target :
    (afterCopying rules target database source).collection target =
      (database.collection target).receive rules (database.batch source) :=
  collection_put_self

theorem collection_afterCopying_of_ne (different : name ≠ target) :
    (afterCopying rules target database source).collection name = database.collection name := by
  rw [afterCopying, collection_put_of_ne different, collection_looked, collection_looked]

theorem run_on_openForReading (readable : setting.Readable) :
    (on source.name (Source.openForReading (setting.failures.of source.name))).run database =
      ⟨.ok ((database.collection source.name).documents.length,
          ⟨(database.collection source.name).documents, none⟩),
        database.looked source.name, []⟩ := by
  apply run_on_of_unchanged
  exact Source.run_openForReading (database.collection source.name)
    (readable.count source.name) (readable.find source.name) (readable.cursor source.name)

theorem run_copyTo_of_clear (readable : setting.Readable)
    (clear : ∀ doc ∈ (database.collection source.name).documents,
      doc.obstacle? (setting.failures.of target) = none) :
    (source.copyTo setting target).run database =
      ⟨.ok ((database.collection target).tally (setting.failures.of target) (database.batch source)),
        afterCopying (setting.failures.of target) target database source,
        source.notices (setting.failures.of target) setting.cadence (database.collection target)
          (database.collection source.name).documents⟩ := by
  have reading := @run_on_openForReading setting (database.looked target) source readable
  rw [collection_looked] at reading
  have writing : (on target (source.copyCursor (setting.failures.of target) setting.cadence
        (database.collection source.name).documents.length
        ⟨(database.collection source.name).documents, none⟩)).run
      ((database.looked target).looked source.name) =
      ⟨.ok ((database.collection target).tally (setting.failures.of target) (database.batch source)),
        afterCopying (setting.failures.of target) target database source,
        source.notices (setting.failures.of target) setting.cadence (database.collection target)
          (database.collection source.name).documents⟩ := by
    apply run_on_of_run
    rw [collection_looked, collection_looked]
    exact source.run_copyCursor (database.collection target) (database.collection source.name).documents
      clear readable.cadence
  exact Job.run_bind_of_silent run_look (Job.run_bind_of_silent reading writing)

theorem run_copyTo (readable : setting.Readable) (tolerable : (setting.failures.of target).Tolerable) :
    (source.copyTo setting target).run database =
      ⟨.ok ((database.collection target).tally (setting.failures.of target) (database.batch source)),
        afterCopying (setting.failures.of target) target database source,
        source.notices (setting.failures.of target) setting.cadence (database.collection target)
          (database.collection source.name).documents⟩ :=
  run_copyTo_of_clear readable fun doc _ => tolerable.obstacle?_eq_none doc

/-- Sources together with the target as each of them meets it. -/
def stages (rules : FailureRules) (database : Database) :
    Collection → List Source → List (Source × Collection)
  | _, [] => []
  | target, source :: rest =>
      (source, target) :: stages rules database (target.receive rules (database.batch source)) rest

def stageTally (rules : FailureRules) (database : Database) (stage : Source × Collection) :
    String × Tally :=
  (stage.1.name, stage.2.tally rules (database.batch stage.1))

def stageNotices (rules : FailureRules) (cadence : Int) (database : Database)
    (stage : Source × Collection) : List Notice :=
  stage.1.notices rules cadence stage.2 (database.collection stage.1.name).documents

/-- Copying of sources is described by the documents that stand in them at the beginning. -/
theorem stages_congr (rules : FailureRules) (cadence : Int) (target : Collection)
    (same : ∀ source ∈ sources, database.collection source.name = other.collection source.name) :
    (stages rules database target sources).map (stageTally rules database) =
        (stages rules other target sources).map (stageTally rules other) ∧
      (stages rules database target sources).flatMap (stageNotices rules cadence database) =
        (stages rules other target sources).flatMap (stageNotices rules cadence other) := by
  induction sources generalizing target with
  | nil => exact ⟨rfl, rfl⟩
  | cons source rest ih =>
      obtain ⟨first, later⟩ := List.forall_mem_cons.mp same
      have batched : database.batch source = other.batch source := by rw [batch, batch, first]
      obtain ⟨tallies, notices⟩ := ih (target.receive rules (database.batch source)) later
      rw [batched] at tallies notices
      simp [stages, stageTally, stageNotices, batched, first, tallies, notices]

theorem run_copySources (readable : setting.Readable)
    (foreign : ∀ source ∈ sources, source.name ≠ Schema.target)
    (clear : ∀ source ∈ sources, ∀ doc ∈ (database.collection source.name).documents,
      doc.obstacle? setting.targetRules = none) :
    (copySources setting sources).run database =
      ⟨.ok ((stages setting.targetRules database (database.collection Schema.target) sources).map
          (stageTally setting.targetRules database)),
        sources.foldl (afterCopying setting.targetRules Schema.target) database,
        (stages setting.targetRules database (database.collection Schema.target) sources).flatMap
          (stageNotices setting.targetRules setting.cadence database)⟩ := by
  induction sources generalizing database with
  | nil => rfl
  | cons source rest ih =>
      obtain ⟨_, later⟩ := List.forall_mem_cons.mp foreign
      obtain ⟨here, beyond⟩ := List.forall_mem_cons.mp clear
      -- The sources that are left stand as they did: only the target has changed.
      have unread : ∀ other ∈ rest,
          (afterCopying setting.targetRules Schema.target database source).collection other.name =
            database.collection other.name :=
        fun other member => collection_afterCopying_of_ne (later other member)
      have restRun := @ih (afterCopying setting.targetRules Schema.target database source) later
        fun other member => by rw [unread other member]; exact beyond other member
      obtain ⟨tallies, notices⟩ := stages_congr setting.targetRules setting.cadence
        ((database.collection Schema.target).receive setting.targetRules (database.batch source)) unread
      rw [collection_afterCopying_target, tallies, notices, copySources] at restRun
      have firstRun : (do
          let tally ← source.copyTo setting Schema.target
          return (source.name, tally) : Job Database (String × Tally)).run database =
          ⟨.ok (stageTally setting.targetRules database (source, database.collection Schema.target)),
            afterCopying setting.targetRules Schema.target database source,
            stageNotices setting.targetRules setting.cadence database
              (source, database.collection Schema.target)⟩ := by
        rw [Job.run_bind, run_copyTo_of_clear readable here]
        simp [Outcome.andThen, stageTally, stageNotices]
      rw [copySources, List.mapM_cons, Job.run_bind, firstRun]
      simp only [Outcome.andThen, Job.run_bind, restRun]
      simp [stages]

end Database
end GameLogs
