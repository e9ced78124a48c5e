import GameLogs.Rounding
import GameLogs.Store.Database
import GameLogs.Text.Padding
import GameLogs.Value.ExtendedJson
namespace GameLogs

/-! Writing a sample of a game's documents to a file. -/

/-- A database, the files below the working directory, and how often a connection was closed. -/
structure Workspace where
  database : Database
  files : FileTree
  closed : Nat

namespace Workspace

def onDatabase {A : Type} (job : Job Database A) : Job Workspace A :=
  job.within Workspace.database fun database workspace => { workspace with database }

def onCollection {A : Type} (name : String) (job : Job Collection A) : Job Workspace A :=
  onDatabase (Database.on name job)

/-- Changes the files and gives what the change gives, or stops with what keeps them from being changed. -/
def changeFiles {A : Type} (change : FileTree → Except Error (A × FileTree)) : Job Workspace A := do
  let workspace ← Job.get
  let (value, files) ← Job.ofExcept (change workspace.files)
  Job.set { workspace with files }
  return value

end Workspace

namespace Sample

/-- What goes wrong when a sample is written, beside what the paths themselves do not allow. -/
structure Hindrances where
  making? : Option Fault
  rendering? : Option Fault
  opening? : Option Fault
  /-- How many characters reach the file before the writing fails. -/
  writing? : Option (Nat × Fault)

namespace Hindrances

def none : Hindrances := ⟨.none, .none, .none, .none⟩

/-- What comes of an attempt, barring a fault. -/
def barring {A : Type} (fault? : Option Fault) (attempt : Except FileFault A) : Except Error A :=
  match fault? with
  | some fault => .error (.store fault)
  | .none => attempt.mapError .file

theorem barring_eq_ok_iff {A : Type} {fault? : Option Fault} {attempt : Except FileFault A} {value : A} :
    barring fault? attempt = .ok value ↔ fault? = .none ∧ attempt = .ok value := by
  cases fault? with
  | some fault => exact ⟨nofun, nofun⟩
  | none =>
      cases attempt with
      | error fault => exact ⟨nofun, nofun⟩
      | ok other => exact ⟨fun same => ⟨rfl, congrArg Except.ok (Except.ok.inj same)⟩,
          fun same => congrArg Except.ok (Except.ok.inj same.2)⟩

variable (hindrances : Hindrances)

def makeDirectory (directory : FilePath) (files : FileTree) : Except Error (Unit × FileTree) :=
  (barring hindrances.making? (files.makeDirectory directory)).map fun made => ((), made)

def openFile (path : FilePath) (files : FileTree) : Except Error (FilePath × FileTree) :=
  barring hindrances.opening? (files.openEmpty path)

/-- The part of a text that reaches its file. -/
def arriving (text : String) : String :=
  match hindrances.writing? with
  | some (count, _) => String.ofList (text.toList.take count)
  | .none => text

end Hindrances

def standardLimit : Int := 200

def standardDirectory : String := "samples"

def fileName (game : String) : String := s!"{Schema.target}_{game}_sample.json"

def path (directory : FilePath) (game : String) : FilePath :=
  directory ++ FilePath.ofText (fileName game)

def content (docs : List Document) : String := (Value.documentsJson docs).render

/-- A length in units of 1024 with two places; a half goes to the even neighbour. -/
def sizeText (length : Nat) : String :=
  let hundredths := roundedQuotient (length * 100) 1024
  s!"{hundredths / 100}.{Text.zeroPadded 2 (hundredths % 100)}"

def select (rules : FailureRules) (game : Value) (limit : Int) :
    Job Collection (List Document) := do
  let collection ← Job.get
  let found ← Job.ofStore (collection.find rules (.ofCondition Field.game game))
  Job.ofStore (Cursor.ofDocuments rules limit found).toList

/-- Writes documents to the file of a game.  The file is opened, and so emptied, before the text is written. -/
def writeFile (hindrances : Hindrances) (docs : List Document) (directory : FilePath) (game : String) :
    Job Workspace FilePath := do
  Workspace.changeFiles (hindrances.makeDirectory directory)
  Job.stopOn hindrances.rendering?
  let text := content docs
  let file := path directory game
  let place ← Workspace.changeFiles (hindrances.openFile file)
  Job.modify fun workspace =>
    { workspace with files := workspace.files.fill place (hindrances.arriving text) }
  Job.stopOn (hindrances.writing?.map Prod.snd)
  Job.tellAll
    [.exported docs.length, .exportedFile file.text, .exportedSize (sizeText text.length)]
  return file

/-- Writes the documents of a game to a file, and gives its path; nothing is written if there are
none. -/
def write (plan : FailurePlan) (collection : String) (game : Value) (limit : Int)
    (directory : FilePath) (hindrances : Hindrances := .none) : Job Workspace (Option FilePath) := do
  Job.tell (.fetching limit game.display)
  let docs ← Workspace.onCollection collection (select (plan.of collection) game limit)
  if docs = [] then
    Job.tell (.noDocuments game.display)
    return none
  else return some (← writeFile hindrances docs directory game.display)

end Sample
end GameLogs
