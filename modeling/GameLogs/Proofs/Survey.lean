import GameLogs.Proofs.Hidden
import GameLogs.Proofs.Copying
import GameLogs.Proofs.Sources
import GameLogs.Survey.Report
namespace GameLogs

/-! Surveys as counts over the documents that were read.

A run of surveying reads only, and comes to its end when reading does not fail.
-/

theorem KeyCounts.count_addAll {counts : KeyCounts} {keys : List String} {key : String} :
    (keys.foldl add counts).count key = counts.count key + List.count key keys := by
  induction keys generalizing counts with
  | nil => simp
  | cons first rest ih =>
      rw [List.foldl_cons, ih, count_add, List.count_cons]
      by_cases same : first = key
      · simp [same]
        omega
      · simp [same, Ne.symm same]

theorem Document.hiddenKeys_of_not_hasPayload {doc : Document} (empty : doc.hasPayload = false) :
    doc.hiddenKeys = [] := by
  unfold hasPayload at empty
  unfold hiddenKeys
  split at empty
  case h_1 => cases empty
  case h_2 without =>
    cases found : doc.payload? with
    | none => rfl
    | some payload =>
        cases payload with
        | nil => rfl
        | cons field rest => exact absurd found (without field rest)

namespace Source

variable {source : Source} {docs : List Document} {doc : Document} {rules : FailureRules} {limit : Int}
  {collection : Collection} {key : String}

theorem droppedKeys_eq : source.droppedKeys doc = if source.flatten then doc.hiddenKeys else [] := by
  unfold droppedKeys
  cases payload : doc.hasPayload with
  | false => simp [Document.hiddenKeys_of_not_hasPayload payload]
  | true => simp

theorem foldl_addToSurvey {survey : Survey} : docs.foldl source.addToSurvey survey =
    { documents := survey.documents + docs.length
      payloads := survey.payloads + docs.countP Document.hasPayload
      hidden := (docs.flatMap source.droppedKeys).foldl KeyCounts.add survey.hidden
      otherGames := survey.otherGames + docs.countP (·.namesOtherGame source.game)
      anonymous := survey.anonymous + docs.countP fun doc => !doc.has Field.identity } := by
  induction docs generalizing survey with
  | nil => simp
  | cons doc rest ih =>
      rw [List.foldl_cons, ih]
      simp only [addToSurvey, List.length_cons, List.flatMap_cons, List.foldl_append, List.countP_cons,
        Survey.mk.injEq, true_and]
      refine ⟨by omega, by omega, by omega, ?_⟩
      cases doc.has Field.identity <;> simp
      omega

/-- A survey counts the documents of each kind. -/
theorem surveyOf_eq : source.surveyOf docs =
    { documents := docs.length
      payloads := docs.countP Document.hasPayload
      hidden := (docs.flatMap source.droppedKeys).foldl KeyCounts.add []
      otherGames := docs.countP (·.namesOtherGame source.game)
      anonymous := docs.countP fun doc => !doc.has Field.identity } := by
  rw [surveyOf, foldl_addToSurvey]
  simp [Survey.zero]

theorem count_hidden_surveyOf :
    (source.surveyOf docs).hidden.count key = List.count key (docs.flatMap source.droppedKeys) := by
  rw [surveyOf_eq, KeyCounts.count_addAll]
  exact Nat.zero_add _

/-- With distinct keys in the documents, a hidden key is counted once for each document that hides it. -/
theorem count_hidden_eq (regular : ∀ doc ∈ docs, doc.Regular) :
    (source.surveyOf docs).hidden.count key =
      if source.flatten then docs.countP fun doc => decide (doc.Hides (.string source.game) key) else 0 := by
  rw [count_hidden_surveyOf]
  induction docs with
  | nil => simp
  | cons doc rest ih =>
      obtain ⟨first, later⟩ := List.forall_mem_cons.mp regular
      rw [List.flatMap_cons, List.count_append, ih later, droppedKeys_eq]
      cases flatten : source.flatten with
      | false => simp
      | true =>
          have here : List.count key doc.hiddenKeys =
              if doc.Hides (.string source.game) key then 1 else 0 := by
            rw [(Document.nodup_hiddenKeys first).count]
            exact if_congr (Document.mem_hiddenKeys_iff first.1) rfl rfl
          simp only [if_true, List.countP_cons, here, decide_eq_true_eq]
          omega

theorem run_survey (found : rules.findFault? = none) (read : ∀ position, rules.cursorFault? position = none) :
    (source.survey rules limit).run collection =
      ⟨.ok (source.surveyOf (Cursor.limited limit collection.documents)), collection, []⟩ := by
  have whole : collection.documents.filter Filter.all.accepts = collection.documents :=
    List.filter_true collection.documents
  simp [survey, Collection.find, found, whole, Cursor.ofDocuments, Cursor.ofDocumentsFrom_of_free read,
    Cursor.toList, Outcome.andThen]

def reportNotices (source : Source) (survey : Survey) : List Notice :=
  [.reportHeading source.name source.game source.flatten, .thinRule,
    .figure .documents survey.documents, .figure .payloads survey.payloads,
    .figure .otherGames survey.otherGames, .figure .anonymous survey.anonymous] ++
  ((if survey.payloads ≠ 0 ∧ source.flatten = false then [.payloadNotFlattened] else []) ++
    droppedKeyNotices (survey.hidden.map fun entry => (entry.1, (entry.2 : Int))))

theorem run_report {State : Type} {state : State} {survey : Survey} :
    (source.report (.ofSurvey survey)).run state = ⟨.ok (), state, source.reportNotices survey⟩ := by
  by_cases none : survey.payloads = 0 <;> cases flatten : source.flatten <;>
    simp [report, showFigure, ReportFigures.ofSurvey, showHidden, reportNotices, Outcome.andThen, none, flatten]

end Source

namespace Database

variable {setting : Setting} {database : Database} {source : Source} {sources : List Source} {limit : Int}

/-- What is reported of a source under a limit. -/
def surveyed (limit : Int) (database : Database) (source : Source) : String × Survey :=
  (source.name, source.surveyOf (Cursor.limited limit (database.collection source.name).documents))

theorem run_on_survey (readable : setting.Readable) :
    (on source.name (source.survey (setting.failures.of source.name) limit)).run database =
      ⟨.ok (source.surveyOf (Cursor.limited limit (database.collection source.name).documents)),
        database.looked source.name, []⟩ := by
  apply run_on_of_unchanged
  exact Source.run_survey (readable.find source.name) (readable.cursor source.name)

theorem run_surveyAndReport (readable : setting.Readable) :
    (source.surveyAndReport setting.failures limit).run database =
      ⟨.ok (database.surveyed limit source), database.looked source.name,
        source.reportNotices (database.surveyed limit source).2⟩ := by
  exact Job.run_bind_of_silent (run_on_survey readable) (Job.run_bind_pure_of_ok _ Source.run_report)

theorem run_mapM_surveyAndReport (readable : setting.Readable)
    (listed : ∀ source ∈ sources, source.name ∈ database.collections.keys) :
    (sources.mapM fun source : Source => source.surveyAndReport setting.failures limit).run database =
      ⟨.ok (sources.map (database.surveyed limit)), database,
        sources.flatMap fun source => source.reportNotices (database.surveyed limit source).2⟩ := by
  induction sources with
  | nil => rfl
  | cons source rest ih =>
      obtain ⟨first, later⟩ := List.forall_mem_cons.mp listed
      have reported := @run_surveyAndReport setting database source limit readable
      rw [looked_of_listed first] at reported
      rw [List.mapM_cons]
      exact Job.run_bind_of_ok reported (Job.run_bind_pure_of_ok _ (ih later))

/-- A survey of all sources leaves the database as it is. -/
theorem run_survey (readable : setting.Readable) :
    (survey setting.failures limit).run database =
      ⟨.ok (database.sources.map (database.surveyed limit)), database,
        [.heading .survey, .excludedNames (Classification.ofNames database.names).excluded] ++
          database.sources.flatMap fun source =>
            source.reportNotices (database.surveyed limit source).2⟩ := by
  have listed : ∀ source ∈ database.sources, source.name ∈ database.collections.keys :=
    fun _ member => listed_of_mem_names (Classification.placement_of_mem_sources member).1
  refine Job.run_bind_of_silent Job.run_get (Job.run_bind_of_ok (Job.run_tellAll _) ?_)
  exact run_mapM_surveyAndReport readable listed

end Database
end GameLogs
