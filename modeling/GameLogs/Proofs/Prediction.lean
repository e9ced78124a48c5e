import GameLogs.Proofs.Survey
import GameLogs.Proofs.Tallies
namespace GameLogs.Database

/-! What a survey of a source says about copying it. -/

variable {setting : Setting} {rules : FailureRules} {database : Database} {source : Source} {target : String}

theorem errors_tally_batch {collection : Collection}
    (allowed : ∀ delivery ∈ database.batch source, delivery.AllowedBy rules) :
    (collection.tally rules (database.batch source)).errors =
      (database.collection source.name).documents.countP fun doc => !doc.has Field.identity := by
  have anonymous : ∀ doc ∈ (database.collection source.name).documents,
      (Delivery.mk source doc).failsUnder rules = !doc.has Field.identity := by
    intro doc member
    have delivered : Delivery.mk source doc ∈ database.batch source := List.mem_map_of_mem member
    exact Delivery.failsUnder_of_allowed (allowed _ delivered)
  rw [Collection.errors_tally, batch, List.countP_map]
  apply List.countP_congr
  intro doc member
  rw [Function.comp_apply, anonymous doc member]

/-- A survey of a whole source counts the documents that are copied, skipped or refused, among them as
anonymous those that are refused, if the target refuses no identity.  A key counts as hidden in those
documents whose payload has it and is without effect under it, if payloads are flattened at all. -/
theorem survey_predicts_copy (readable : setting.Readable)
    (tolerable : (setting.failures.of target).Tolerable)
    (allowed : ∀ delivery ∈ database.batch source, delivery.AllowedBy (setting.failures.of target))
    (regular : ∀ doc ∈ (database.collection source.name).documents, doc.Regular) :
    ∃ survey tally,
      ((on source.name (source.survey (setting.failures.of source.name) 0)).run database).result =
        .ok survey ∧
      ((source.copyTo setting target).run database).result = .ok tally ∧
      survey.documents = tally.migrated + tally.skipped + tally.errors ∧
      survey.anonymous = tally.errors ∧
      ∀ key, survey.hidden.count key =
        if source.flatten then
          (database.collection source.name).documents.countP fun doc =>
            decide (doc.Hides (.string source.game) key)
        else 0 := by
  refine ⟨source.surveyOf (database.collection source.name).documents,
    (database.collection target).tally (setting.failures.of target) (database.batch source), ?_, ?_, ?_, ?_, ?_⟩
  · rw [run_on_survey readable]
    rfl
  · rw [run_copyTo readable tolerable]
  · have total := @Collection.total_tally (database.collection target) (setting.failures.of target)
      (database.batch source)
    rw [Tally.total] at total
    rw [total, Source.surveyOf_eq, batch, List.length_map]
  · rw [errors_tally_batch allowed, Source.surveyOf_eq]
  · exact fun key => Source.count_hidden_eq regular

/-- A source with payloads whose keys are hidden by a field, by the identity and by the game, and with
one that is no document. -/
def hidingSpecimen : Database where
  collections :=
    [("logs_tetris", .ofDocuments
      [[("_id", .int 1), ("score", .null),
          ("data", .document [("score", .int 5), ("_id", .int 9), ("data", .int 3), ("level", .int 2)])],
        [("data", .document [("game", .string "go"), ("level", .int 1)])],
        [("score", .int 3), ("_id", .double ⟨0x3ff0000000000000⟩), ("data", .array [.int 1])],
        [("_id", .null), ("score", .int 4), ("data", .document [("score", .int 4)])]])]

theorem survey_predicts_copy_specimen :
    (Setting.refusing [] []).Readable ∧
      ((Setting.refusing [] []).failures.of Schema.target).Tolerable ∧
      (∀ delivery ∈ hidingSpecimen.batch ⟨"logs_tetris", "tetris", true⟩,
        delivery.AllowedBy ((Setting.refusing [] []).failures.of Schema.target)) ∧
      (∀ doc ∈ (hidingSpecimen.collection "logs_tetris").documents, doc.Regular) ∧
      ∃ survey tally,
        ((on "logs_tetris" (Source.survey ⟨"logs_tetris", "tetris", true⟩
          ((Setting.refusing [] []).failures.of "logs_tetris") 0)).run hidingSpecimen).result = .ok survey ∧
        ((Source.copyTo ⟨"logs_tetris", "tetris", true⟩ (.refusing [] []) Schema.target).run
          hidingSpecimen).result = .ok tally ∧
        tally = ⟨2, 1, 1⟩ ∧
        (((Source.copyTo ⟨"logs_tetris", "tetris", true⟩ (.refusing [] []) Schema.target).run
          hidingSpecimen).state.collection Schema.target).documents.map (·.field Field.identity) =
            [.int 1, .null] ∧
        survey.documents = tally.migrated + tally.skipped + tally.errors ∧
        survey.anonymous = tally.errors ∧
        survey.hidden.count "score" = 2 ∧ survey.hidden.count "level" = 0 := by
  have tolerable : ((Setting.refusing [] []).failures.of Schema.target).Tolerable :=
    Setting.orderly_refusing.insertion
  have allowed : ∀ delivery ∈ hidingSpecimen.batch ⟨"logs_tetris", "tetris", true⟩,
      delivery.AllowedBy ((Setting.refusing [] []).failures.of Schema.target) := by decide
  have regular : ∀ doc ∈ (hidingSpecimen.collection "logs_tetris").documents, doc.Regular := by decide
  obtain ⟨survey, tally, surveyed, copied, total, anonymous, hidden⟩ := survey_predicts_copy
    Setting.orderly_refusing.toReadable tolerable allowed regular
  have counted : tally = ⟨2, 1, 1⟩ := Except.ok.inj (copied.symm.trans rfl)
  exact ⟨Setting.orderly_refusing.toReadable, tolerable, allowed, regular, survey, tally, surveyed, copied,
    counted, rfl, total, anonymous, (hidden "score").trans (by decide), (hidden "level").trans (by decide)⟩

end GameLogs.Database
