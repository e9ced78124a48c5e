import GameLogs.Consolidation.Games
import GameLogs.Consolidation.Source
import GameLogs.Indexes
namespace GameLogs

/-! Consolidating a whole database.

The sources are copied one after another; then the indexes of the target are built and its documents
are counted.
-/

structure Summary where
  sources : List (String × Tally)
  indexes : IndexReport
  total : Nat
  games : List (String × Nat)
deriving DecidableEq, Repr

namespace Summary

def errors (summary : Summary) : Nat :=
  summary.sources.foldl (fun total source => total + source.2.errors) 0

def notices (summary : Summary) : List Notice :=
  [.spacedHeading .summary, .targetTotal summary.total] ++
    summary.games.map (fun game => .gameTotal game.1 game.2) ++
    (if summary.errors = 0 then [] else [.totalErrors summary.errors]) ++
    (if summary.indexes.failed = [] then [] else [.indexesFailed summary.indexes.failed])

end Summary

def Classification.notices (classified : Classification) : List Notice :=
  [.target, .prefixedCount classified.prefixed.length, .rawCount classified.raw.length,
    .excludedCount classified.excluded.length, .blank]

namespace Database

def copySources (setting : Setting) (sources : List Source) :
    Job Database (List (String × Tally)) :=
  sources.mapM fun source => do
    let tally ← source.copyTo setting Schema.target
    return (source.name, tally)

def countDocuments (rules : FailureRules) : Job Collection (Nat × List (String × Nat)) := do
  let collection ← Job.get
  let total ← Job.ofStore (collection.count rules .all)
  let games ← GameCounts.perform rules
  return (total, games)

def consolidate (setting : Setting) : Job Database Summary := do
  let rules := setting.failures.of Schema.target
  look Schema.target
  let database ← Job.get
  let classified := Classification.ofNames database.names
  Job.tellAll classified.notices
  let sources ← copySources setting classified.sources
  Job.tell (.spacedHeading .buildingIndexes)
  let indexes ← on Schema.target (buildIndexes rules IndexRequest.configured)
  let (total, games) ← on Schema.target (countDocuments rules)
  let summary : Summary := ⟨sources, indexes, total, games⟩
  Job.tellAll summary.notices
  return summary

end Database
end GameLogs
