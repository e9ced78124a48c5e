import GameLogs.Proofs.Entries
import GameLogs.Proofs.Games
import Mathlib.Data.List.Sort
import Mathlib.Data.String.Basic
namespace GameLogs

/-! What a count of games says of a collection.

It lists the games that are a text, each once and in ascending order, with the number of documents of
each.  Two collections that have as many documents of every game are counted alike.
-/

namespace Collection

variable {collection other : Collection} {doc : Document} {game : String} {value : Value}
  {values before : List Value}

/-- The number of documents of a game. -/
def countOf (collection : Collection) (game : String) : Nat :=
  collection.documents.countP (Filter.equal Field.game (.string game)).accepts

theorem accepts_game_iff : (Filter.equal Field.game (.string game)).accepts doc = true ↔
    doc.field? Field.game = some (.string game) := by
  rw [Filter.accepts, Document.field]
  cases found : doc.field? Field.game with
  | none => simp [Value.equals, Value.content?, Content.same]
  | some value =>
      rw [Option.getD_some, Option.some.injEq]
      constructor
      · exact Value.eq_string_of_equals
      · rintro rfl
        rw [Value.equals_string, decide_eq_true_eq]

theorem countOf_pos_iff : 0 < collection.countOf game ↔
    ∃ doc ∈ collection.documents, doc.field? Field.game = some (.string game) := by
  simp only [countOf, List.countP_pos_iff, accepts_game_iff]

private theorem mem_addDistinct_of_mem {added : Value} (member : value ∈ values) :
    value ∈ addDistinct values added := by
  rw [addDistinct]
  split
  · exact member
  · exact List.mem_append_left _ member

private theorem string_mem_addDistinct : .string game ∈ addDistinct values (.string game) := by
  rw [addDistinct]
  split
  case isTrue known =>
    obtain ⟨stored, member, equal⟩ := List.any_eq_true.mp known
    exact Value.eq_string_of_equals equal ▸ member
  case isFalse => exact List.mem_append_right _ (List.mem_singleton_self _)

private theorem string_mem_foldl_addDistinct (member : .string game ∈ before ∨ .string game ∈ values) :
    .string game ∈ values.foldl addDistinct before := by
  induction values generalizing before with
  | nil => simpa using member
  | cons first rest ih =>
      apply ih
      rw [List.mem_cons] at member
      rcases member with old | rfl | later
      · exact Or.inl (mem_addDistinct_of_mem old)
      · exact Or.inl string_mem_addDistinct
      · exact Or.inr later

theorem string_mem_games_iff : .string game ∈ collection.games ↔ 0 < collection.countOf game := by
  rw [countOf_pos_iff]
  constructor
  · exact field?_of_mem_games
  · intro stored
    exact string_mem_foldl_addDistinct (Or.inr (List.mem_filterMap.mpr stored))

private theorem pairwise_foldl_addDistinct
    (distinct : before.Pairwise fun first second => first.equals second = false) :
    (values.foldl addDistinct before).Pairwise fun first second => first.equals second = false := by
  induction values generalizing before with
  | nil => exact distinct
  | cons value rest ih =>
      apply ih
      rw [addDistinct]
      split
      case isTrue => exact distinct
      case isFalse fresh =>
        refine List.pairwise_append.mpr ⟨distinct, List.pairwise_singleton _ _, ?_⟩
        intro stored member last same
        obtain rfl := List.mem_singleton.mp same
        exact Bool.eq_false_iff.mpr fun equal => fresh (List.any_eq_true.mpr ⟨stored, member, equal⟩)

theorem pairwise_games : collection.games.Pairwise fun first second => first.equals second = false :=
  pairwise_foldl_addDistinct .nil

end Collection

namespace GameCounts

variable {games : List Value} {text : String} {game : Value} {sorted : List (String × Value)}

private theorem pairwise_insert (ascending : sorted.Pairwise fun first second => first.1 < second.1)
    (fresh : ∀ entry ∈ sorted, entry.1 ≠ text) :
    (insert text game sorted).Pairwise fun first second => first.1 < second.1 := by
  induction sorted with
  | nil => exact List.pairwise_singleton _ _
  | cons first rest ih =>
      obtain ⟨below, restAscending⟩ := List.pairwise_cons.mp ascending
      obtain ⟨different, restFresh⟩ := List.forall_mem_cons.mp fresh
      rw [insert]
      split
      case isTrue notAbove =>
        have less : first.1 < text := notAbove.resolve_right different
        refine List.pairwise_cons.mpr ⟨?_, ih restAscending restFresh⟩
        intro entry member
        rcases mem_insert.mp member with rfl | later
        · exact less
        · exact below entry later
      case isFalse above =>
        have less : text < first.1 :=
          lt_of_le_of_ne (not_lt.mp fun under => above (Or.inl under)) (Ne.symm different)
        refine List.pairwise_cons.mpr ⟨?_, ascending⟩
        intro entry member
        rcases List.mem_cons.mp member with rfl | later
        · exact less
        · exact lt_trans less (below entry later)

private theorem eq_string_of_text? (named : ∀ text, game ≠ .code text) (found : game.text? = some text) :
    game = .string text := by
  cases game with
  | string other => rw [Option.some.inj found]
  | code other => exact absurd rfl (named other)
  | _ => cases found

/-- Games of which no two are equal are listed in strictly ascending order, if none is code. -/
theorem pairwise_textGames (distinct : games.Pairwise fun first second => first.equals second = false)
    (named : ∀ game ∈ games, ∀ text, game ≠ .code text) :
    (textGames games).Pairwise fun first second => first.1 < second.1 := by
  induction games using List.reverseRecOn with
  | nil => exact .nil
  | append_singleton earlier game ih =>
      obtain ⟨distinctEarlier, _, apart⟩ := List.pairwise_append.mp distinct
      obtain ⟨namedEarlier, namedLast⟩ := List.forall_mem_append.mp named
      have ascending := ih distinctEarlier namedEarlier
      cases found : game.text? with
      | none => rwa [textGames_concat_of_none found]
      | some text =>
          rw [textGames_concat_of_text found]
          refine pairwise_insert ascending fun entry member same => ?_
          obtain ⟨listed, known⟩ := mem_textGames_iff.mp member
          have last := eq_string_of_text? (namedLast game (List.mem_singleton_self _)) found
          have equal := apart entry.2 listed game (List.mem_singleton_self _)
          rw [eq_string_of_text? (namedEarlier entry.2 listed) known, last, same, Value.equals_string] at equal
          simp at equal

end GameCounts

namespace Collection

variable {collection other : Collection} {game : String}

def gameNames (collection : Collection) : List String := Entries.keys collection.gameCounts

private theorem gameNames_eq :
    collection.gameNames = (GameCounts.textGames collection.games).map Prod.fst := by
  simp [gameNames, gameCounts, Entries.keys]

theorem pairwise_gameNames (countable : collection.Countable) : collection.gameNames.Pairwise (· < ·) := by
  rw [gameNames_eq, List.pairwise_map]
  exact GameCounts.pairwise_textGames pairwise_games fun _ => countable.ne_code

theorem mem_gameNames_iff (countable : collection.Countable) :
    game ∈ collection.gameNames ↔ 0 < collection.countOf game := by
  rw [gameNames_eq, ← string_mem_games_iff, List.mem_map]
  constructor
  · rintro ⟨entry, member, rfl⟩
    obtain ⟨listed, found⟩ := GameCounts.mem_textGames_iff.mp member
    rwa [GameCounts.eq_string_of_text? (countable.ne_code listed) found] at listed
  · intro listed
    exact ⟨(game, .string game), GameCounts.mem_textGames_iff.mpr ⟨listed, rfl⟩, rfl⟩

theorem gameCounts_eq (countable : collection.Countable) :
    collection.gameCounts = collection.gameNames.map fun game => (game, collection.countOf game) := by
  rw [gameNames_eq, gameCounts, List.map_map]
  apply List.map_congr_left
  intro entry member
  obtain ⟨listed, found⟩ := GameCounts.mem_textGames_iff.mp member
  rw [GameCounts.eq_string_of_text? (countable.ne_code listed) found]
  rfl

theorem item?_gameCounts (countable : collection.Countable) :
    (Entries.item? collection.gameCounts game).getD 0 = collection.countOf game := by
  rw [gameCounts_eq countable, Entries.item?_map_mk]
  split
  case isTrue => rfl
  case isFalse missing =>
    rw [mem_gameNames_iff countable, Nat.not_lt, Nat.le_zero] at missing
    exact missing.symm

theorem gameCounts_congr (countable : collection.Countable) (otherCountable : other.Countable)
    (same : ∀ game, collection.countOf game = other.countOf game) :
    collection.gameCounts = other.gameCounts := by
  have names : collection.gameNames = other.gameNames := by
    refine (pairwise_gameNames countable).eq_of_mem_iff (pairwise_gameNames otherCountable) ?_
    intro game
    rw [mem_gameNames_iff countable, mem_gameNames_iff otherCountable, same]
  rw [gameCounts_eq countable, gameCounts_eq otherCountable, names]
  exact List.map_congr_left fun game _ => by rw [same]

end Collection
end GameLogs
