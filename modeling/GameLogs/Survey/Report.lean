import GameLogs.Survey.Source
namespace GameLogs

/-! The printed report of a source. -/

/-- How often each key was hidden, as far as a report can show it. -/
inductive HiddenCounts where
  | shown (counts : List (String × Int))
  /-- Keys were hidden, but their counts cannot be put in order or shown. -/
  | refused (error : Error)

/-- The figures that a report shows.  One that cannot be shown stops the report where it stands. -/
structure ReportFigures where
  documents : Except Error Int
  payloads : Except Error Int
  otherGames : Except Error Int
  anonymous : Except Error Int
  hidden : Except Error HiddenCounts

namespace ReportFigures

def ofSurvey (survey : Survey) : ReportFigures where
  documents := .ok survey.documents
  payloads := .ok survey.payloads
  otherGames := .ok survey.otherGames
  anonymous := .ok survey.anonymous
  hidden := .ok (.shown (survey.hidden.map fun entry => (entry.1, (entry.2 : Int))))

end ReportFigures

/-- Puts a key behind all keys that are met at least as often. -/
def insertByCount (entry : String × Int) : List (String × Int) → List (String × Int)
  | [] => [entry]
  | first :: rest =>
      if entry.2 ≤ first.2 then first :: insertByCount entry rest else entry :: first :: rest

/-- Keys by descending count; keys that are met equally often keep their order. -/
def byDescendingCount (counts : List (String × Int)) : List (String × Int) :=
  counts.foldl (fun sorted entry => insertByCount entry sorted) []

def droppedKeyNotices (counts : List (String × Int)) : List Notice :=
  if counts = [] then []
  else .collisionsHeading ::
    (byDescendingCount counts).map fun entry => .collision entry.1 entry.2

def showFigure {State : Type} (kind : Figure) (figure : Except Error Int) : Job State Int := do
  let value ← Job.ofExcept figure
  Job.tell (.figure kind value)
  return value

/-- Shows the keys that are dropped; counts that are refused stop the report under the heading. -/
def showHidden {State : Type} : HiddenCounts → Job State Unit
  | .shown counts => Job.tellAll (droppedKeyNotices counts)
  | .refused error => do
      Job.tell .collisionsHeading
      Job.stop error

def Source.report {State : Type} (source : Source) (figures : ReportFigures) :
    Job State Unit := do
  Job.tellAll [.reportHeading source.name source.game source.flatten, .thinRule]
  let _ ← showFigure .documents figures.documents
  let payloads ← showFigure .payloads figures.payloads
  let _ ← showFigure .otherGames figures.otherGames
  let _ ← showFigure .anonymous figures.anonymous
  if payloads ≠ 0 ∧ !source.flatten then Job.tell .payloadNotFlattened
  let hidden ← Job.ofExcept figures.hidden
  showHidden hidden

def Source.surveyAndReport (source : Source) (plan : FailurePlan) (limit : Int) :
    Job Database (String × Survey) := do
  let survey ← Database.on source.name (source.survey (plan.of source.name) limit)
  source.report (.ofSurvey survey)
  return (source.name, survey)

def Database.survey (plan : FailurePlan) (limit : Int) : Job Database (List (String × Survey)) := do
  let database ← Job.get
  let classified := Classification.ofNames database.names
  Job.tellAll [.heading .survey, .excludedNames classified.excluded]
  classified.sources.mapM fun source => source.surveyAndReport plan limit

end GameLogs
