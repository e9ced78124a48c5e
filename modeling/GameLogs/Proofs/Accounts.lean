import GameLogs.Proofs.Consolidation
import GameLogs.Proofs.GameCounts
import GameLogs.Proofs.Tallies
import Mathlib.Algebra.BigOperators.Group.List.Basic
import Mathlib.Algebra.Ring.Nat
namespace GameLogs

/-! What the summary of a consolidation says of the documents in the target.

Each source adds as many documents as its tally counts as migrated, all of them of its own game, and no
game has more than two sources.
-/

/-- Whether a source of that name adds documents of a game. -/
def Source.feeds (name game : String) : Bool :=
  name == Schema.logPrefix ++ game || (name == game && !Text.startsWith game Schema.logPrefix)

namespace Summary

variable {summary : Summary} {game : String}

def migrated (summary : Summary) : Nat := (summary.sources.map fun source => source.2.migrated).sum

/-- How many documents were inserted from a source: none, if it is not one of the sources. -/
def migratedFrom (summary : Summary) (source : String) : Nat :=
  (Entries.item? summary.sources source).elim 0 Tally.migrated

def gameNames (summary : Summary) : List String := Entries.keys summary.games

def countOf (summary : Summary) (game : String) : Nat := (Entries.item? summary.games game).getD 0

theorem sum_migrated_of_game (distinct : (Entries.keys summary.sources).Nodup) :
    (summary.sources.map fun source => if Source.feeds source.1 game then source.2.migrated else 0).sum =
      summary.migratedFrom (Schema.logPrefix ++ game) +
        if Text.startsWith game Schema.logPrefix then 0 else summary.migratedFrom game := by
  rw [migratedFrom, migratedFrom, ← Entries.sum_map_item distinct, ← Entries.sum_map_item distinct]
  cases starts : Text.startsWith game Schema.logPrefix with
  | true => simp [Source.feeds, starts]
  | false =>
      have apart : game ≠ Schema.logPrefix ++ game := by
        intro joined
        rw [Text.startsWith_iff.mpr ⟨game, joined⟩] at starts
        cases starts
      rw [if_neg Bool.false_ne_true, ← List.sum_map_add]
      congr 1
      apply List.map_congr_left
      intro source _
      by_cases prefixed : source.1 = Schema.logPrefix ++ game
      · simp [Source.feeds, prefixed, Ne.symm apart]
      · simp [Source.feeds, starts, prefixed]

end Summary

theorem Source.accepts_game_canonical {source : Source} {doc : Document} {game : String} :
    (Filter.equal Field.game (.string game)).accepts (source.canonical doc) =
      decide (source.game = game) := by
  have stated : (source.canonical doc).field? Field.game = some (.string source.game) :=
    @Delivery.field?_game ⟨source, doc⟩
  rw [Bool.eq_iff_iff, Collection.accepts_game_iff, stated, decide_eq_true_eq, Option.some.injEq,
    Value.string.injEq]

namespace Database

variable {setting : Setting} {rules : FailureRules} {database : Database} {sources : List Source}
  {target : Collection}

theorem keys_stageTally :
    Entries.keys ((stages rules database target sources).map (stageTally rules database)) =
      sources.map Source.name := by
  induction sources generalizing target with
  | nil => rfl
  | cons source rest ih =>
      simp only [Entries.keys] at ih ⊢
      simp only [stages, List.map_cons, ih, stageTally]

/-- Of documents that count by the name of their source, those are added that the tallies of these
sources count as migrated. -/
theorem countP_receive_batches {counts : Document → Bool} {counted : String → Bool}
    (uniform : ∀ source ∈ sources, ∀ doc, counts (source.canonical doc) = counted source.name) :
    (target.receive rules (sources.flatMap database.batch)).documents.countP counts =
      target.documents.countP counts +
        (((stages rules database target sources).map (stageTally rules database)).map fun source =>
          if counted source.1 then source.2.migrated else 0).sum := by
  induction sources generalizing target with
  | nil => simp [stages]
  | cons source rest ih =>
      obtain ⟨first, later⟩ := List.forall_mem_cons.mp uniform
      have here : ∀ delivery ∈ database.batch source, counts delivery.canonical = counted source.name := by
        intro delivery member
        obtain ⟨doc, _, rfl⟩ := List.mem_map.mp member
        exact first doc
      have received := @Collection.countP_receive target rules _ _ _ here
      rw [List.flatMap_cons, Collection.receive_append, ih later, received]
      simp only [stages, List.map_cons, List.sum_cons, stageTally]
      omega

theorem nodup_sources_summary : (Entries.keys (database.summary rules).sources).Nodup := by
  have named : Entries.keys (database.summary rules).sources = database.sources.map Source.name :=
    keys_stageTally
  rw [named]
  exact Classification.nodup_names_sources

theorem total_summary : (database.summary rules).total =
    (database.collection Schema.target).documents.length + (database.summary rules).migrated := by
  have counted := @countP_receive_batches rules database database.sources
    (database.collection Schema.target) (fun _ => true) (fun _ => true) fun _ _ _ => rfl
  simp only [List.countP_true, if_true] at counted
  exact counted

theorem countOf_consolidatedTarget (game : String) : (database.consolidatedTarget rules).countOf game =
    (database.collection Schema.target).countOf game +
      ((database.summary rules).migratedFrom (Schema.logPrefix ++ game) +
        if Text.startsWith game Schema.logPrefix then 0 else (database.summary rules).migratedFrom game) := by
  have uniform : ∀ source ∈ database.sources, ∀ doc,
      (Filter.equal Field.game (.string game)).accepts (source.canonical doc) =
        Source.feeds source.name game := by
    intro source member doc
    rw [Source.accepts_game_canonical, Bool.eq_iff_iff, decide_eq_true_eq, Classification.game_eq_iff member]
    simp [Source.feeds]
  rw [← Summary.sum_migrated_of_game nodup_sources_summary]
  exact @countP_receive_batches rules database database.sources (database.collection Schema.target) _
    (Source.feeds · game) uniform

/-- The summary of a consolidation counts the documents that the target holds in the end: those it held
before, and those that were migrated.  It lists the games that occur, in ascending order, and of each
the documents that it had before and that its sources have added. -/
theorem consolidate_accounts (orderly : setting.Orderly)
    (countable : (database.collection Schema.target).Countable) :
    ∃ summary, ((consolidate setting).run database).result = .ok summary ∧
      let before := database.collection Schema.target
      let after := ((consolidate setting).run database).state.collection Schema.target
      summary.total = before.documents.length + summary.migrated ∧
      summary.total = after.documents.length ∧
      summary.gameNames.Pairwise (· < ·) ∧
      (∀ game, game ∈ summary.gameNames ↔
        ∃ doc ∈ after.documents, doc.field? Field.game = some (.string game)) ∧
      ∀ game, summary.countOf game = after.countOf game ∧
        after.countOf game = before.countOf game +
          (summary.migratedFrom (Schema.logPrefix ++ game) +
            if Text.startsWith game Schema.logPrefix then 0 else summary.migratedFrom game) := by
  have countableAfter := @countable_consolidatedTarget setting.targetRules database countable
  refine ⟨database.summary setting.targetRules, ?_, ?_⟩
  · rw [run_consolidate orderly countable]
  · rw [state_consolidate orderly, collection_consolidated_target]
    refine ⟨total_summary, rfl, Collection.pairwise_gameNames countableAfter, fun game => ?_, fun game => ?_⟩
    · rw [← Collection.countOf_pos_iff]
      exact Collection.mem_gameNames_iff countableAfter
    · exact ⟨Collection.item?_gameCounts countableAfter, countOf_consolidatedTarget game⟩

/-- Two sources of one game, one of a game that begins with the prefix, and documents of the target that
have a game, another kind of game, or none. -/
def ledgerSpecimen : Database where
  collections :=
    [("tetris", .ofDocuments [[("_id", .bool true), ("game", .string "go")], [("_id", .int 7)]]),
      ("logs_tetris", .ofDocuments
        [[("_id", .int 1), ("data", .document [("game", .string "chess"), ("score", .int 5)])],
          [("_id", .int 2)], [("score", .int 3)]]),
      ("logs_logs_tetris", .ofDocuments [[("_id", .int 3)], [("_id", .string "a")]]),
      ("logdata", .ofDocuments
        [[("_id", .string "a"), ("game", .string "tetris")], [("_id", .string "b")],
          [("_id", .string "c"), ("game", .int 5)]])]

theorem countable_ledgerSpecimen : (ledgerSpecimen.collection Schema.target).Countable := by
  intro doc member text found
  rcases List.mem_cons.mp member with rfl | later
  · cases found
  · rcases List.mem_cons.mp later with rfl | last
    · cases found
    · obtain rfl := List.mem_singleton.mp last
      cases found

theorem consolidate_accounts_specimen :
    (Setting.refusing [.int 2] []).Orderly ∧ (ledgerSpecimen.collection Schema.target).Countable ∧
      ∃ summary, ((consolidate (.refusing [.int 2] [])).run ledgerSpecimen).result = .ok summary ∧
        summary.total = 3 + summary.migrated ∧ "tetris" ∈ summary.gameNames ∧
        (((consolidate (.refusing [.int 2] [])).run ledgerSpecimen).state.collection
          Schema.target).countOf "tetris" = 1 + (1 + 1) ∧
        (((consolidate (.refusing [.int 2] [])).run ledgerSpecimen).state.collection
          Schema.target).countOf "logs_tetris" = 0 + (1 + 0) := by
  obtain ⟨summary, completed, total, _, _, listed, counted⟩ :=
    @consolidate_accounts (.refusing [.int 2] []) ledgerSpecimen Setting.orderly_refusing
      countable_ledgerSpecimen
  have evaluated := completed
  rw [run_consolidate Setting.orderly_refusing countable_ledgerSpecimen] at evaluated
  obtain rfl := Except.ok.inj evaluated
  refine ⟨Setting.orderly_refusing, countable_ledgerSpecimen, _, completed, total, ?_,
    (counted "tetris").2.trans (by decide), (counted "logs_tetris").2.trans (by decide)⟩
  rw [listed, ← Collection.countOf_pos_iff, (counted "tetris").2]
  decide

end Database
end GameLogs
