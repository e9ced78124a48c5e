import GameLogs.Proofs.Consolidation
import GameLogs.Proofs.Settlement
import GameLogs.Proofs.Tallies
namespace GameLogs

/-! What a copy says of the documents of its source.

Every document is counted, and the target grows by those that are counted as migrated.  Whether a document
fails, and with which detail, depends on the rules alone; each that fails is told of on the error channel,
in the order of the source, and nothing else is.
-/

/-- How a warning names a document. -/
def Document.label (doc : Document) : String := (doc.field? Field.identity).elim "None" Value.display

theorem Document.display_identity {doc : Document} : (doc.field Field.identity).display = doc.label := by
  rw [field, label]
  cases doc.field? Field.identity <;> rfl

namespace Notice

variable {notices others : List Notice}

def errors (notices : List Notice) : List Notice := notices.filter fun notice => notice.channel == .errors

theorem errors_append : errors (notices ++ others) = errors notices ++ errors others :=
  List.filter_append _ _

theorem printed_errors : printed .errors notices = String.join ((errors notices).map text) := rfl

end Notice

namespace Source

variable {source : Source} {rules : FailureRules} {cadence : Int} {total count : Nat} {target : Collection}
  {tally : Tally} {doc : Document} {docs : List Document}

def warning? (source : Source) (rules : FailureRules) (doc : Document) : Option Notice :=
  (doc.failure? rules).map fun detail => .insertionFailed (doc.field Field.identity) source.name detail

/-- The warnings of a document do not depend on what the target holds. -/
theorem warnings_judge : source.warnings doc (Insertion.judge rules target (source.canonical doc)) =
    (source.warning? rules doc).toList := by
  have failed : ∀ detail, Insertion.judge rules target (source.canonical doc) = .failed detail ↔
      doc.failure? rules = some detail :=
    fun detail => @Delivery.judge_eq_failed_iff ⟨source, doc⟩ rules target detail
  cases found : doc.failure? rules with
  | some detail => rw [(failed detail).mpr found, warnings, warning?, found]; rfl
  | none =>
      rw [warning?, found]
      cases judged : Insertion.judge rules target (source.canonical doc) with
      | inserted => rfl
      | alreadyExists => rfl
      | failed detail =>
          rw [(failed detail).mp judged] at found
          cases found

private theorem errors_warning : Notice.errors (source.warning? rules doc).toList =
    (source.warning? rules doc).toList := by
  rw [warning?]
  cases doc.failure? rules <;> rfl

private theorem errors_progressNotices : Notice.errors (source.progressNotices cadence count total) = [] := by
  rw [progressNotices]
  split <;> rfl

theorem errors_copyingNotices :
    Notice.errors (source.copyingNotices cadence total count
        (docs.zip (target.verdicts rules (docs.map (Delivery.mk source))))) =
      docs.filterMap (source.warning? rules) := by
  induction docs generalizing count target with
  | nil => rfl
  | cons doc rest ih =>
      have step : Notice.errors (source.copyingNotices cadence total count
          ((doc :: rest).zip (target.verdicts rules ((doc :: rest).map (Delivery.mk source))))) =
          (source.warning? rules doc).toList ++ rest.filterMap (source.warning? rules) := by
        rw [List.map_cons, Collection.verdicts, List.zip_cons_cons, copyingNotices, Notice.errors_append,
          Notice.errors_append, errors_progressNotices, List.append_nil]
        rw [← errors_warning, ← @warnings_judge source rules target doc, ← ih]
        rfl
      rw [step, List.filterMap_cons]
      cases source.warning? rules doc <;> rfl

private theorem errors_closingNotices : Notice.errors (source.closingNotices cadence count tally) = [] := by
  rw [closingNotices, Notice.errors_append, Notice.errors_append]
  split <;> split <;> rfl

theorem errors_notices : Notice.errors (source.notices rules cadence target docs) =
    docs.filterMap (source.warning? rules) := by
  rw [notices, Notice.errors_append, errors_copyingNotices, errors_closingNotices, List.append_nil]

theorem map_text_warnings : (docs.filterMap (source.warning? rules)).map Notice.text =
    docs.filterMap fun doc => (doc.failure? rules).map fun detail =>
      "\n   ⚠️  Error migrando doc " ++ doc.label ++ " de " ++ source.name ++ ": " ++ detail ++ "\n" := by
  rw [List.map_filterMap]
  apply List.filterMap_congr
  intro doc _
  rw [warning?, Option.map_map, ← Document.display_identity]
  rfl

end Source

namespace Collection

variable {target : Collection} {rules : FailureRules} {source : Source}

/-- A collection holds the identities of its own documents, as far as these equal themselves. -/
theorem settles_own (proper : ∀ delivery ∈ target.documents.map (Delivery.mk source), delivery.Proper) :
    ∀ delivery ∈ target.documents.map (Delivery.mk source), target.Settles rules delivery := by
  intro delivery member identity named _
  have own := proper delivery member identity named
  obtain ⟨doc, stored, rfl⟩ := List.mem_map.mp member
  have field : doc.field Field.identity = identity := by
    have found : doc.field? Field.identity = some identity := named
    rw [Document.field, found, Option.getD_some]
  exact List.any_eq_true.mpr ⟨doc, stored, by rw [field, own]⟩

end Collection

namespace Database

variable {setting : Setting} {database : Database} {source : Source} {target : String}

/-- A copy comes to its end and counts every document of the source: as migrated those by which the
target has grown, as errors those without an identity and those that the rules of the target refuse.  For
each of these one warning is printed, in the order of the source, and nothing else on the error channel.
A collection that is copied into itself stays as it is. -/
theorem copyTo_accounts (readable : setting.Readable) (tolerable : (setting.failures.of target).Tolerable) :
    let rules := setting.failures.of target
    let docs := (database.collection source.name).documents
    let outcome := (source.copyTo setting target).run database
    ∃ tally, outcome.result = .ok tally ∧
      tally.migrated + tally.skipped + tally.errors = docs.length ∧
      (outcome.state.collection target).documents.length =
        (database.collection target).documents.length + tally.migrated ∧
      tally.errors = docs.countP (fun doc => (doc.failure? rules).isSome) ∧
      Notice.errors outcome.notices = docs.filterMap (source.warning? rules) ∧
      Notice.printed .errors outcome.notices =
        String.join (docs.filterMap fun doc => (doc.failure? rules).map fun detail =>
          "\n   ⚠️  Error migrando doc " ++ doc.label ++ " de " ++ source.name ++ ": " ++ detail ++ "\n") ∧
      (source.name = target → (∀ delivery ∈ database.batch source, delivery.Proper) →
        tally.migrated = 0 ∧ outcome.state.collection target = database.collection target) := by
  have length : (database.batch source).length = (database.collection source.name).documents.length :=
    List.length_map _
  simp only [run_copyTo readable tolerable, collection_afterCopying_target]
  refine ⟨_, rfl, ?_, Collection.length_receive, ?_, Source.errors_notices, ?_, ?_⟩
  · rw [← length]
    exact Collection.total_tally
  · rw [Collection.errors_tally, batch, List.countP_map]
    exact List.countP_congr fun doc _ => by rw [Function.comp_apply, Delivery.failsUnder_eq]
  · rw [Notice.printed_errors, Source.errors_notices, Source.map_text_warnings]
  · rintro rfl proper
    have same := @Collection.receive_of_settles _ (setting.failures.of source.name) _
      (Collection.settles_own proper)
    have grown := @Collection.length_receive (database.collection source.name)
      (setting.failures.of source.name) (database.batch source)
    rw [batch, same] at grown ⊢
    exact ⟨by omega, rfl⟩

/-- Of the first source of the specimen one document has no identity and one is refused.  Copied into
itself, the source stays as it is although two of its identities are equal. -/
theorem copyTo_accounts_specimen :
    (Setting.refusing [.int 4] []).Readable ∧
      ((Setting.refusing [.int 4] []).failures.of Schema.target).Tolerable ∧
      (∃ tally, ((Source.copyTo ⟨"logs_tetris", "tetris", true⟩ (.refusing [.int 4] [])
          Schema.target).run specimen).result = .ok tally ∧
        tally.migrated + tally.skipped + tally.errors = 5 ∧ tally.errors = 2 ∧ tally = ⟨1, 2, 2⟩) ∧
      (((Source.copyTo ⟨"logs_tetris", "tetris", true⟩ (.refusing [.int 4] [])
          Schema.target).run specimen).state.collection Schema.target).documents =
        [[("_id", .string "a"), ("game", .string "chess")],
          [("_id", .int 1), ("game", .string "tetris"), ("score", .int 5)]] ∧
      Notice.printed .errors ((Source.copyTo ⟨"logs_tetris", "tetris", true⟩ (.refusing [.int 4] [])
          Schema.target).run specimen).notices =
        "\n   ⚠️  Error migrando doc None de logs_tetris: documento sin _id\n" ++
          "\n   ⚠️  Error migrando doc 4 de logs_tetris: Document failed validation\n" ∧
      ((Setting.refusing [] []).failures.of "logs_tetris").Tolerable ∧
      (∀ delivery ∈ specimen.batch ⟨"logs_tetris", "tetris", true⟩, delivery.Proper) ∧
      ((Source.copyTo ⟨"logs_tetris", "tetris", true⟩ (.refusing [] []) "logs_tetris").run
        specimen).state.collection "logs_tetris" = specimen.collection "logs_tetris" := by
  have alone : ((Setting.refusing [] []).failures.of "logs_tetris").Tolerable :=
    fun _ _ refused => by cases refused
  have proper : ∀ delivery ∈ specimen.batch ⟨"logs_tetris", "tetris", true⟩, delivery.Proper := by decide
  obtain ⟨tally, ended, total, _, errors, _, printed, _⟩ := @copyTo_accounts (.refusing [.int 4] []) specimen
    ⟨"logs_tetris", "tetris", true⟩ Schema.target Setting.orderly_refusing.toReadable
    Setting.orderly_refusing.insertion
  obtain ⟨_, _, _, _, _, _, _, own⟩ := @copyTo_accounts (.refusing [] []) specimen
    ⟨"logs_tetris", "tetris", true⟩ "logs_tetris" Setting.orderly_refusing.toReadable alone
  exact ⟨Setting.orderly_refusing.toReadable, Setting.orderly_refusing.insertion,
    ⟨tally, ended, total, errors.trans (by decide), Except.ok.inj (ended.symm.trans rfl)⟩, rfl, printed.trans (by decide), alone, proper,
    (own rfl proper).2⟩

end Database
end GameLogs
