import GameLogs.Consolidation.Run
import Mathlib.Data.List.Induction
namespace GameLogs

/-! Runs of counting games.

Counting reads only.  It comes to its end unless some document's game is code.
-/

namespace Collection

variable {collection : Collection} {rules : FailureRules} {value : Value}

/-- No document has code for its game. -/
def Countable (collection : Collection) : Prop :=
  ∀ doc ∈ collection.documents, ∀ text, doc.field? Field.game ≠ some (.code text)

def games (collection : Collection) : List Value :=
  (collection.documents.filterMap (·.field? Field.game)).foldl addDistinct []

/-- The number of documents of every game whose name is a text, ordered by name. -/
def gameCounts (collection : Collection) : List (String × Nat) :=
  (GameCounts.textGames collection.games).map fun game =>
    (game.1, collection.documents.countP (Filter.equal Field.game game.2).accepts)

private theorem mem_of_mem_addDistinct {values : List Value} {added : Value}
    (member : value ∈ addDistinct values added) : value ∈ values ∨ value = added := by
  unfold addDistinct at member
  split at member
  · exact Or.inl member
  · simpa using member

private theorem mem_of_mem_foldl_addDistinct {values before : List Value}
    (member : value ∈ values.foldl addDistinct before) : value ∈ before ∨ value ∈ values := by
  induction values generalizing before with
  | nil => exact Or.inl member
  | cons first rest ih =>
      rcases ih member with added | later
      · rcases mem_of_mem_addDistinct added with old | rfl
        · exact Or.inl old
        · exact Or.inr (List.mem_cons_self ..)
      · exact Or.inr (List.mem_cons_of_mem _ later)

theorem field?_of_mem_games (member : value ∈ collection.games) :
    ∃ doc ∈ collection.documents, doc.field? Field.game = some value := by
  rcases mem_of_mem_foldl_addDistinct member with old | found
  · cases old
  · exact List.mem_filterMap.mp found

theorem Countable.ne_code (countable : collection.Countable) (member : value ∈ collection.games)
    (text : String) : value ≠ .code text := by
  obtain ⟨doc, stored, found⟩ := field?_of_mem_games member
  exact fun same => countable doc stored text (same ▸ found)

end Collection

namespace GameCounts

variable {collection : Collection} {rules : FailureRules}

theorem mem_insert {text : String} {game : Value} {sorted : List (String × Value)}
    {entry : String × Value} : entry ∈ insert text game sorted ↔ entry = (text, game) ∨ entry ∈ sorted := by
  induction sorted with
  | nil => simp [insert]
  | cons first rest ih =>
      rw [insert]
      split
      · simp [ih, or_left_comm]
      · simp

theorem textGames_concat_of_text {games : List Value} {game : Value} {text : String}
    (named : game.text? = some text) : textGames (games ++ [game]) = insert text game (textGames games) := by
  simp [textGames, named]

theorem textGames_concat_of_none {games : List Value} {game : Value} (unnamed : game.text? = none) :
    textGames (games ++ [game]) = textGames games := by
  simp [textGames, unnamed]

theorem mem_textGames_iff {games : List Value} {entry : String × Value} :
    entry ∈ textGames games ↔ entry.2 ∈ games ∧ entry.2.text? = some entry.1 := by
  induction games using List.reverseRecOn with
  | nil => simp [textGames]
  | append_singleton earlier game ih =>
      rw [List.mem_append, List.mem_singleton]
      cases named : game.text? with
      | none =>
          rw [textGames_concat_of_none named, ih]
          grind
      | some text =>
          rw [textGames_concat_of_text named, mem_insert, ih]
          grind

theorem readsOnly_count {game : String × Value} : (count rules game).ReadsOnly := by
  refine Job.readsOnly_get.bind fun collection => (Job.readsOnly_ofExcept _).bind fun counted => ?_
  split
  · exact fun _ => rfl
  · exact Job.readsOnly_pure _

theorem readsOnly_perform : (perform rules).ReadsOnly :=
  Job.readsOnly_get.bind fun _ => (Job.readsOnly_ofExcept _).bind fun _ =>
    Job.ReadsOnly.mapM fun _ => readsOnly_count

private theorem run_count {game : String × Value} (counted : rules.countFault? = none)
    (named : ∀ text, game.2 ≠ .code text) :
    (count rules game).run collection =
      ⟨.ok (game.1, collection.documents.countP (Filter.equal Field.game game.2).accepts), collection, []⟩ := by
  obtain ⟨name, value⟩ := game
  cases value <;>
    first
      | exact absurd rfl (named _)
      | simp [count, Collection.count, counted, Outcome.andThen]

private theorem run_mapM_count {entries : List (String × Value)} (counted : rules.countFault? = none)
    (named : ∀ entry ∈ entries, ∀ text, entry.2 ≠ .code text) :
    (entries.mapM (count rules)).run collection =
      ⟨.ok (entries.map fun game =>
          (game.1, collection.documents.countP (Filter.equal Field.game game.2).accepts)),
        collection, []⟩ := by
  induction entries with
  | nil => rfl
  | cons entry rest ih =>
      obtain ⟨first, later⟩ := List.forall_mem_cons.mp named
      rw [List.mapM_cons]
      refine Job.run_bind_of_silent (run_count counted first) ?_
      exact Job.run_bind_of_silent (ih later) rfl

theorem run_perform (counted : rules.countFault? = none) (distinct : rules.distinctFault? = none)
    (countable : collection.Countable) :
    (perform rules).run collection = ⟨.ok collection.gameCounts, collection, []⟩ := by
  have found : (Job.ofStore (collection.distinct rules Field.game)).run collection =
      ⟨.ok collection.games, collection, []⟩ := by
    simp [Collection.distinct, distinct, Collection.games]
  have named : ∀ entry ∈ textGames collection.games, ∀ text, entry.2 ≠ .code text :=
    fun entry member => countable.ne_code (mem_textGames_iff.mp member).1
  exact Job.run_bind_of_silent Job.run_get
    (Job.run_bind_of_silent found (run_mapM_count counted named))

end GameCounts

namespace Database

variable {collection : Collection} {rules : FailureRules}

theorem readsOnly_countDocuments : (countDocuments rules).ReadsOnly :=
  Job.readsOnly_get.bind fun _ => (Job.readsOnly_ofExcept _).bind fun _ =>
    GameCounts.readsOnly_perform.bind fun _ => Job.readsOnly_pure _

theorem run_countDocuments (counted : rules.countFault? = none) (distinct : rules.distinctFault? = none)
    (countable : collection.Countable) :
    (countDocuments rules).run collection =
      ⟨.ok (collection.documents.length, collection.gameCounts), collection, []⟩ := by
  have all : Filter.all.accepts = fun _ => true := rfl
  have total : (Job.ofStore (collection.count rules .all)).run collection =
      ⟨.ok collection.documents.length, collection, []⟩ := by
    simp [Collection.count, counted, all]
  exact Job.run_bind_of_silent Job.run_get (Job.run_bind_of_silent total
    (Job.run_bind_of_silent (GameCounts.run_perform counted distinct countable) rfl))

end Database
end GameLogs
