import GameLogs.Store.Database
namespace GameLogs

/-! How many documents a collection holds of each game. -/

namespace GameCounts

/-- Puts a game behind the games whose names are not greater. -/
def insert (text : String) (game : Value) : List (String × Value) → List (String × Value)
  | [] => [(text, game)]
  | first :: rest =>
      if first.1 < text ∨ first.1 = text then first :: insert text game rest
      else (text, game) :: first :: rest

def textGames (games : List Value) : List (String × Value) :=
  games.foldl
    (fun sorted game =>
      match game.text? with
      | some text => insert text game sorted
      | none => sorted)
    []

/-- Counts the documents of a game.  A game that is code has no name to be listed under. -/
def count (rules : FailureRules) (game : String × Value) : Job Collection (String × Nat) := do
  let collection ← Job.get
  let count ← Job.ofStore (collection.count rules (.equal Field.game game.2))
  match game.2 with
  | .code _ => Job.stop .codeGame
  | _ => return (game.1, count)

def perform (rules : FailureRules) : Job Collection (List (String × Nat)) := do
  let collection ← Job.get
  let games ← Job.ofStore (collection.distinct rules Field.game)
  (textGames games).mapM (count rules)

end GameCounts
end GameLogs
