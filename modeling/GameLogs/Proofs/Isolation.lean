import GameLogs.Proofs.Frames
import GameLogs.Proofs.Indifference
namespace GameLogs

/-! Consolidations and the collections beside the target.

A consolidation leaves them as they are, however it ends, so that a survey finds the same before and
after.  Those that are no sources do not reach it in turn: nothing shows of them but how many were
excluded.
-/

namespace Notice

variable {channel : Channel} {notice : Notice} {first second notices : List Notice}

theorem printed_append :
    printed channel (first ++ second) = printed channel first ++ printed channel second := by
  rw [printed, List.filter_append, List.map_append, String.join_append]
  rfl

theorem printed_cons (here : notice.channel = channel) :
    printed channel (notice :: notices) = notice.text ++ printed channel notices := by
  simp [printed, here]

end Notice

namespace Database

variable {setting : Setting} {database first second : Database} {plan : FailurePlan} {limit : Int}

/-- A survey reads the names once, and then the sources one after another. -/
theorem run_survey_eq : (survey plan limit).run database =
    let rest :=
      (database.sources.mapM fun source : Source => source.surveyAndReport plan limit).run database
    ⟨rest.result, rest.state,
      [.heading .survey, .excludedNames (Classification.ofNames database.names).excluded] ++ rest.notices⟩ := by
  simp only [survey, Job.run_bind, Job.run_get, Job.run_tellAll, Outcome.andThen]
  rfl

theorem AlikeBesideTarget.result_survey (alike : first.AlikeBesideTarget second) :
    ((survey plan limit).run first).result = ((survey plan limit).run second).result := by
  have read : ReadAlike second.sources first second := fun source member =>
    congrArg Collection.documents (alike.collections source.name (name_ne_target_of_mem_sources member))
  obtain ⟨surveyed, _⟩ := Job.Indifferent.mapM (fun _ member => indifferent_surveyAndReport member)
    first second read
  rw [run_survey_eq, run_survey_eq, alike.sources_eq]
  exact surveyed

/-- A consolidation changes no collection but the target, creates none, and does not change what a
survey finds, whether it comes to its end or an error stops it. -/
theorem consolidate_isolated (setting : Setting) (database : Database) :
    let after := ((consolidate setting).run database).state
    (∀ name, name ≠ Schema.target → after.collection name = database.collection name ∧
      (name ∈ after.names ↔ name ∈ database.names)) ∧
    ∀ (reader : Setting) (limit : Int),
      ((survey reader.failures limit).run after).result =
        ((survey reader.failures limit).run database).result ∧
      (reader.Readable → ∃ surveys, ((survey reader.failures limit).run after).result = .ok surveys) := by
  have alike := @alikeBesideTarget_consolidate setting database
  refine ⟨fun name different => ⟨alike.collections name different, alike.names name different⟩, ?_⟩
  intro reader limit
  refine ⟨alike.result_survey, fun readable => ?_⟩
  rw [run_survey readable]
  exact ⟨_, rfl⟩

/-- An identity that no store can look up stops the consolidation of the specimen behind two documents. -/
def stopping : Setting where
  failures := [(Schema.target, .insert (.string "a") ⟨.badType, "unhashable type"⟩)]
  cadence := Schema.standardCadence

theorem consolidate_isolated_stopping :
    ((consolidate stopping).run specimen).result = .error (.store ⟨.badType, "unhashable type"⟩) ∧
      (((consolidate stopping).run specimen).state.collection Schema.target).documents.length = 2 ∧
      (((consolidate stopping).run specimen).state.collection "snake").documents.length = 2 ∧
      ∃ surveys, ((survey Setting.standard.failures (-1)).run
        ((consolidate stopping).run specimen).state).result = .ok surveys := by
  obtain ⟨beside, surveyed⟩ := consolidate_isolated stopping specimen
  obtain ⟨kept, _⟩ := beside "snake" (by decide)
  refine ⟨by rfl, by decide, ?_, (surveyed .standard (-1)).2 ?_⟩
  · rw [kept]
    decide
  · exact ⟨by decide, fun _ => rfl, fun _ => rfl, fun _ _ => rfl⟩

/-- The same sources with related documents, and the same target. -/
structure AlikeInSources (related : List Document → List Document → Prop) (first second : Database) :
    Prop where
  names : ∀ name, Placement.of Schema.reserved Schema.logPrefix name ≠ .excluded →
    (name ∈ first.names ↔ name ∈ second.names)
  target : first.collection Schema.target = second.collection Schema.target
  documents : ∀ source ∈ first.sources,
    related (first.collection source.name).documents (second.collection source.name).documents

theorem AlikeInSources.sources_eq {related : List Document → List Document → Prop}
    (alike : first.AlikeInSources related second) : first.sources = second.sources :=
  Classification.sources_ofNames_congr alike.names

theorem AlikeInSources.copyAlike (alike : first.AlikeInSources Eq second) :
    CopyAlike second.sources (first.looked Schema.target) (second.looked Schema.target) where
  target := by rw [collection_looked, collection_looked, alike.target]
  sources := by
    intro source member
    rw [← alike.sources_eq] at member
    rw [collection_looked, collection_looked]
    exact alike.documents source member

def excluded (database : Database) : List String := (Classification.ofNames database.names).excluded

theorem AlikeInSources.consolidate_eq (alike : first.AlikeInSources Eq second) :
    ((consolidate setting).run first).result = ((consolidate setting).run second).result ∧
      ((consolidate setting).run first).state.collection Schema.target =
        ((consolidate setting).run second).state.collection Schema.target := by
  obtain ⟨ended, left, _⟩ := @indifferent_consolidateSources setting second.sources
    (fun _ => name_ne_target_of_mem_sources) _ _ alike.copyAlike
  rw [run_consolidate_eq, run_consolidate_eq, alike.sources_eq]
  exact ⟨ended, left.target⟩

/-- Alike databases are told of alike but for the count of the excluded collections. -/
theorem AlikeInSources.notices_consolidate (alike : first.AlikeInSources Eq second) :
    ∃ before after,
      ((consolidate setting).run first).notices =
        before ++ .excludedCount first.excluded.length :: after ∧
      ((consolidate setting).run second).notices =
        before ++ .excludedCount second.excluded.length :: after := by
  obtain ⟨prefixed, raw⟩ := Classification.ofNames_congr alike.names
  obtain ⟨_, _, told⟩ := @indifferent_consolidateSources setting second.sources
    (fun _ => name_ne_target_of_mem_sources) _ _ alike.copyAlike
  refine ⟨[.target, .prefixedCount (Classification.ofNames second.names).prefixed.length,
      .rawCount (Classification.ofNames second.names).raw.length],
    .blank :: ((consolidateSources setting second.sources).run (second.looked Schema.target)).notices, ?_, ?_⟩
  · rw [run_consolidate_eq, alike.sources_eq]
    simp only [Classification.notices, prefixed, raw, told]
    rfl
  · rw [run_consolidate_eq]
    rfl

/-- Two databases with the same sources and the same target are consolidated alike, whatever else they
hold: only the line that counts the excluded collections can tell them apart. -/
theorem consolidate_ignores_excluded (setting : Setting) (first second : Database)
    (alike : first.AlikeInSources Eq second) :
    ((consolidate setting).run first).result = ((consolidate setting).run second).result ∧
      ((consolidate setting).run first).state.collection Schema.target =
        ((consolidate setting).run second).state.collection Schema.target ∧
      Notice.printed .errors ((consolidate setting).run first).notices =
        Notice.printed .errors ((consolidate setting).run second).notices ∧
      ∃ before after,
        Notice.printed .output ((consolidate setting).run first).notices =
          before ++ (Notice.excludedCount first.excluded.length).text ++ after ∧
        Notice.printed .output ((consolidate setting).run second).notices =
          before ++ (Notice.excludedCount second.excluded.length).text ++ after := by
  obtain ⟨ended, left⟩ := @AlikeInSources.consolidate_eq setting first second alike
  obtain ⟨before, after, one, other⟩ := @AlikeInSources.notices_consolidate setting first second alike
  have counted : ∀ count, Notice.printed .output (.excludedCount count :: after) =
      (Notice.excludedCount count).text ++ Notice.printed .output after :=
    fun _ => Notice.printed_cons rfl
  refine ⟨ended, left, ?_, Notice.printed .output before, Notice.printed .output after, ?_, ?_⟩
  · rw [one, other, Notice.printed_append, Notice.printed_append]
    rfl
  · rw [one, Notice.printed_append, counted, String.append_assoc]
  · rw [other, Notice.printed_append, counted, String.append_assoc]

/-- The specimen among other excluded collections, in another order. -/
def surroundedSpecimen : Database where
  collections :=
    [("system.views", .ofDocuments [[("_id", .int 5)]]),
      ("snake", .ofDocuments [[("_id", .bool true)], [("_id", .string "b"), ("data", .int 1)]]),
      ("logs_", .ofDocuments [[("_id", .int 2), ("game", .string "go")]]),
      ("logdata", .ofDocuments [[("_id", .string "a"), ("game", .string "chess")]]),
      ("", .ofDocuments []),
      ("logs_tetris", specimen.collection "logs_tetris")]

theorem alike_surroundedSpecimen : specimen.AlikeInSources Eq surroundedSpecimen where
  names := by
    have kept : ∀ name ∈ specimen.names,
        Placement.of Schema.reserved Schema.logPrefix name = .excluded ∨ name ∈ surroundedSpecimen.names := by
      decide
    have known : ∀ name ∈ surroundedSpecimen.names,
        Placement.of Schema.reserved Schema.logPrefix name = .excluded ∨ name ∈ specimen.names := by
      decide
    intro name placed
    exact ⟨fun member => (kept name member).resolve_left placed,
      fun member => (known name member).resolve_left placed⟩
  target := rfl
  documents := by
    rw [sources_specimen, List.forall_mem_cons, List.forall_mem_singleton]
    exact ⟨rfl, rfl⟩

theorem consolidate_ignores_excluded_specimen :
    specimen.AlikeInSources Eq surroundedSpecimen ∧
      ((consolidate stopping).run specimen).result = ((consolidate stopping).run surroundedSpecimen).result ∧
      (((consolidate stopping).run surroundedSpecimen).state.collection Schema.target).documents.length = 2 ∧
      specimen.excluded.length = 2 ∧ surroundedSpecimen.excluded.length = 4 := by
  obtain ⟨ended, left, _⟩ := consolidate_ignores_excluded stopping _ _ alike_surroundedSpecimen
  refine ⟨alike_surroundedSpecimen, ended, ?_, by decide, by decide⟩
  rw [← left]
  decide

end Database
end GameLogs
