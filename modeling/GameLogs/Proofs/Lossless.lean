import GameLogs.Proofs.Consolidation
import GameLogs.Proofs.Survey
import Mathlib.Data.List.Forall2
namespace GameLogs

/-! Consolidations that lose nothing.

If the survey of a database reports nothing that would be lost, and no two identities are equal, then
every document of a source has a document of its own in an empty target, with all its fields.
-/

namespace Document

variable {doc stored : Document} {game : String} {flatten : Bool}

/-- A document is in another one: its identity, the fields of its root but the payload, and the fields
of its payload. -/
structure CarriedBy (doc stored : Document) : Prop where
  identity : ∃ identity, doc.field? Field.identity = some identity ∧
    stored.field? Field.identity = some identity
  root : ∀ key value, key ≠ Field.payload → doc.field? key = some value → stored.field? key = some value
  payload : ∀ payload key value, doc.payload? = some payload → Document.field? payload key = some value →
    stored.field? key = some value

theorem field?_game_of_own {value : Value} (own : doc.namesOtherGame game = false)
    (stated : ∀ value ∈ doc.field? Field.game, value.isNull = false)
    (found : doc.field? Field.game = some value) : value = .string game := by
  have named : doc.field Field.game = value := by rw [field, found, Option.getD_some]
  have equal : value.equals (.string game) = true := by
    simpa [namesOtherGame, named, stated value found] using own
  exact Value.eq_string_of_equals equal

/-- A canonical form carries the document if it has an identity, names no other game, and has no payload
that is hidden or left out. -/
theorem carriedBy_canonical (distinct : doc.keys.Nodup) (identified : doc.has Field.identity = true)
    (own : doc.namesOtherGame game = false)
    (stated : ∀ value ∈ doc.field? Field.game, value.isNull = false)
    (unhidden : flatten = true → doc.hiddenKeys = []) (unused : flatten = false → doc.hasPayload = false) :
    doc.CarriedBy (doc.canonical (.string game) flatten) where
  identity := by
    obtain ⟨identity, found⟩ := Option.isSome_iff_exists.mp identified
    exact ⟨identity, found, by rw [field?_canonical_identity, found]⟩
  root := by
    intro key value different found
    have rooted : (doc.rootPart (.string game)).field? key = some value := by
      rw [field?_rootPart distinct]
      by_cases named : key = Field.game
      · subst named
        rw [if_pos rfl, field?_game_of_own own stated found]
      · rw [if_neg named, if_neg different, found]
    rw [field?_canonical, rooted, Option.some_or]
  payload := by
    intro payload key value found entry
    cases flatten with
    | false =>
        cases payload with
        | nil => cases entry
        | cons field rest =>
            have used : doc.hasPayload = true := by rw [hasPayload, found]
            rw [unused rfl] at used
            cases used
    | true =>
        have visible : ¬ doc.Hides (.string game) key := by
          rw [← mem_hiddenKeys_iff distinct, unhidden rfl]
          exact List.not_mem_nil
        exact field?_canonical_of_visible found entry visible

end Document

namespace Source

variable {source : Source} {survey : Survey} {docs : List Document} {doc : Document}

/-- Nothing is reported that would be lost in a consolidation. -/
structure Clean (source : Source) (survey : Survey) : Prop where
  hidden : survey.hidden = []
  otherGames : survey.otherGames = 0
  anonymous : survey.anonymous = 0
  payloads : source.flatten = false → survey.payloads = 0

instance : Decidable (source.Clean survey) :=
  decidable_of_iff (survey.hidden = [] ∧ survey.otherGames = 0 ∧ survey.anonymous = 0 ∧
      (source.flatten = false → survey.payloads = 0))
    ⟨fun ⟨hidden, otherGames, anonymous, payloads⟩ => ⟨hidden, otherGames, anonymous, payloads⟩,
      fun clean => ⟨clean.hidden, clean.otherGames, clean.anonymous, clean.payloads⟩⟩

theorem carriedBy_of_clean (clean : source.Clean (source.surveyOf docs)) (member : doc ∈ docs)
    (distinct : doc.keys.Nodup) (stated : ∀ value ∈ doc.field? Field.game, value.isNull = false) :
    doc.CarriedBy (source.canonical doc) := by
  have unhidden : source.droppedKeys doc = [] := by
    refine List.eq_nil_iff_forall_not_mem.mpr fun key dropped => ?_
    have counted := @count_hidden_surveyOf source docs key
    rw [clean.hidden] at counted
    exact List.count_eq_zero.mp counted.symm (List.mem_flatMap.mpr ⟨doc, member, dropped⟩)
  obtain ⟨_, otherGames, anonymous, payloads⟩ := clean
  rw [surveyOf_eq] at otherGames anonymous payloads
  have identified : doc.has Field.identity = true := by
    simpa using List.countP_eq_zero.mp anonymous doc member
  have own : doc.namesOtherGame source.game = false :=
    Bool.eq_false_iff.mpr (List.countP_eq_zero.mp otherGames doc member)
  refine Document.carriedBy_canonical distinct identified own stated (fun flatten => ?_) fun flat => ?_
  · rwa [droppedKeys_eq, flatten, if_pos rfl] at unhidden
  · exact Bool.eq_false_iff.mpr (List.countP_eq_zero.mp (payloads flat) doc member)

end Source

namespace Delivery

/-- The identities of two deliveries are not equal. -/
def Apart (first second : Delivery) : Prop :=
  ∀ identity ∈ first.identity?, ∀ other ∈ second.identity?, identity.equals other = false

instance : DecidableRel Apart := fun first second =>
  inferInstanceAs (Decidable (∀ identity ∈ first.identity?, ∀ other ∈ second.identity?,
    identity.equals other = false))

end Delivery

theorem admitted_eq_self {rules : FailureRules} {held : List Value} {deliveries : List Delivery}
    (identified : ∀ delivery ∈ deliveries, delivery.identity?.isSome = true)
    (allowed : ∀ delivery ∈ deliveries, delivery.AllowedBy rules)
    (apart : deliveries.Pairwise Delivery.Apart)
    (fresh : ∀ delivery ∈ deliveries, ∀ identity ∈ delivery.identity?,
      ∀ other ∈ held, other.equals identity = false) :
    admitted rules held deliveries = deliveries := by
  induction deliveries generalizing held with
  | nil => rfl
  | cons delivery rest ih =>
      obtain ⟨here, later⟩ := List.forall_mem_cons.mp identified
      obtain ⟨allowedHere, allowedLater⟩ := List.forall_mem_cons.mp allowed
      obtain ⟨apartHere, apartLater⟩ := List.pairwise_cons.mp apart
      obtain ⟨freshHere, freshLater⟩ := List.forall_mem_cons.mp fresh
      obtain ⟨identity, named⟩ := Option.isSome_iff_exists.mp here
      have freshStill : ∀ delivery ∈ rest, ∀ own ∈ delivery.identity?,
          ∀ other ∈ held ++ [identity], other.equals own = false := by
        intro next member own its
        rw [List.forall_mem_append, List.forall_mem_singleton]
        exact ⟨freshLater next member own its, apartHere next member identity named own its⟩
      simp only [admitted, named]
      rw [if_pos ⟨allowedHere identity named, freshHere identity named⟩,
        ih later allowedLater apartLater freshStill]

namespace Database

variable {setting : Setting} {database : Database}

/-- If no two identities are equal and nothing that would be lost is reported of any source, a
consolidation fills an empty target with one document for each document of the sources, and each
carries the other. -/
theorem consolidate_lossless (orderly : setting.Orderly)
    (allowed : ∀ delivery ∈ database.deliveries, delivery.AllowedBy setting.targetRules)
    (empty : (database.collection Schema.target).documents = [])
    (apart : database.deliveries.Pairwise Delivery.Apart)
    (distinct : ∀ delivery ∈ database.deliveries, delivery.document.keys.Nodup)
    (stated : ∀ delivery ∈ database.deliveries, ∀ game ∈ delivery.document.field? Field.game,
      game.isNull = false) :
    ∃ reports summary,
      ((survey setting.failures 0).run database).result = .ok reports ∧
      ((consolidate setting).run database).result = .ok summary ∧
      ((∀ source ∈ database.sources, ∀ survey, (source.name, survey) ∈ reports → source.Clean survey) →
        List.Forall₂ (fun delivery stored => delivery.document.CarriedBy stored) database.deliveries
          (((consolidate setting).run database).state.collection Schema.target).documents) := by
  have countable : (database.collection Schema.target).Countable := by
    rw [Collection.Countable, empty]
    exact fun _ member => absurd member List.not_mem_nil
  refine ⟨database.sources.map (database.surveyed 0), database.summary setting.targetRules, ?_, ?_, ?_⟩
  · rw [run_survey orderly.toReadable]
  · rw [run_consolidate orderly countable]
  · intro clean
    have carried : ∀ delivery ∈ database.deliveries, delivery.document.CarriedBy delivery.canonical := by
      intro delivery member
      obtain ⟨source, listed, delivered⟩ := List.mem_flatMap.mp member
      obtain ⟨doc, stored, rfl⟩ := List.mem_map.mp delivered
      have reported := clean source listed _ (List.mem_map_of_mem listed)
      exact Source.carriedBy_of_clean reported stored (distinct _ member) (stated _ member)
    have identified : ∀ delivery ∈ database.deliveries, delivery.identity?.isSome = true := by
      intro delivery member
      obtain ⟨identity, named, _⟩ := (carried delivery member).identity
      exact Option.isSome_iff_exists.mpr ⟨identity, named⟩
    have filled : (((consolidate setting).run database).state.collection Schema.target).documents =
        database.deliveries.map Delivery.canonical := by
      rw [state_consolidate orderly, collection_consolidated_target, documents_consolidatedTarget,
        admitted_eq_self identified allowed apart (by simp [Collection.identities, empty]), empty,
        List.nil_append]
    rw [filled, List.forall₂_map_right_iff, List.forall₂_same]
    exact carried

/-- Payloads in nested documents, none hidden, and an empty one in a flat document. -/
def cleanSpecimen : Database where
  collections :=
    [("logs_tetris", .ofDocuments
        [[("_id", .int 1), ("playerId", .string "p"), ("data", .document [("score", .int 5), ("data", .int 7)])],
          [("_id", .int 2), ("game", .string "tetris"), ("data", .document [])]]),
      ("users", .ofDocuments [[("game", .null)]]),
      ("snake", .ofDocuments [[("length", .int 3), ("_id", .string "s"), ("data", .document [])]])]

theorem consolidate_lossless_specimen :
    (Setting.refusing [] []).Orderly ∧
      (∀ delivery ∈ cleanSpecimen.deliveries, delivery.AllowedBy (Setting.refusing [] []).targetRules) ∧
      (cleanSpecimen.collection Schema.target).documents = [] ∧
      cleanSpecimen.deliveries.Pairwise Delivery.Apart ∧
      (∀ delivery ∈ cleanSpecimen.deliveries, delivery.document.keys.Nodup) ∧
      (∀ delivery ∈ cleanSpecimen.deliveries, ∀ game ∈ delivery.document.field? Field.game,
        game.isNull = false) ∧
      (∀ source ∈ cleanSpecimen.sources, ∀ report ∈ cleanSpecimen.sources.map (cleanSpecimen.surveyed 0),
        report.1 = source.name → source.Clean report.2) ∧
      List.Forall₂ (fun delivery stored => delivery.document.CarriedBy stored) cleanSpecimen.deliveries
        [[("_id", .int 1), ("game", .string "tetris"), ("playerId", .string "p"), ("score", .int 5),
            ("data", .int 7)],
          [("_id", .int 2), ("game", .string "tetris")],
          [("_id", .string "s"), ("game", .string "snake"), ("length", .int 3)]] := by
  have allowed : ∀ delivery ∈ cleanSpecimen.deliveries,
      delivery.AllowedBy (Setting.refusing [] []).targetRules := by decide
  have apart : cleanSpecimen.deliveries.Pairwise Delivery.Apart := by decide
  have distinct : ∀ delivery ∈ cleanSpecimen.deliveries, delivery.document.keys.Nodup := by decide
  have stated : ∀ delivery ∈ cleanSpecimen.deliveries, ∀ game ∈ delivery.document.field? Field.game,
      game.isNull = false := by decide
  have clean : ∀ source ∈ cleanSpecimen.sources,
      ∀ report ∈ cleanSpecimen.sources.map (cleanSpecimen.surveyed 0),
        report.1 = source.name → source.Clean report.2 := by decide
  obtain ⟨reports, summary, surveyed, completed, lossless⟩ :=
    consolidate_lossless Setting.orderly_refusing allowed rfl apart distinct stated
  rw [run_survey Setting.orderly_refusing.toReadable] at surveyed
  obtain rfl := Except.ok.inj surveyed
  exact ⟨Setting.orderly_refusing, allowed, rfl, apart, distinct, stated, clean,
    lossless fun source listed survey reported => clean source listed (source.name, survey) reported rfl⟩

end Database
end GameLogs
