import GameLogs.Proofs.FileTrees
import GameLogs.Sample
namespace GameLogs

/-! A call that exports a sample.

It can stop at every step that it takes.  From the opening of a file on, which empties it, the file holds what
the call has written; a call that has opened none changes no file.
-/

namespace Document

/-- Whether the text in the field of the game is the given one. -/
def isOf (game : String) (doc : Document) : Bool :=
  match doc.field? Field.game with
  | some (.string text) => text == game
  | _ => false

theorem accepts_game {game : String} {doc : Document} :
    (Filter.ofCondition Field.game (.string game)).accepts doc = doc.isOf game := by
  change (doc.field Field.game).equals (.string game) = doc.isOf game
  rw [Bool.eq_iff_iff, isOf, field]
  constructor
  · intro equal
    have stored := Value.eq_string_of_equals equal
    cases found : doc.field? Field.game with
    | none => simp [found] at stored
    | some value =>
        obtain rfl : value = .string game := by simpa [found] using stored
        simp
  · intro same
    split at same
    case h_1 text found =>
      rw [found, Option.getD_some, Value.equals_string]
      simpa using same
    case h_2 => cases same

end Document

namespace Workspace

variable {A : Type} {workspace : Workspace} {change : FileTree → Except Error (A × FileTree)} {value : A}
  {files : FileTree} {error : Error}

theorem run_changeFiles_of_ok (changed : change workspace.files = .ok (value, files)) :
    (changeFiles change).run workspace = ⟨.ok value, { workspace with files }, []⟩ := by
  simp only [changeFiles, Job.run_bind, Job.run_get, Outcome.andThen, Job.run_ofExcept, changed]
  rfl

theorem run_changeFiles_of_error (failed : change workspace.files = .error error) :
    (changeFiles change).run workspace = ⟨.error error, workspace, []⟩ := by
  simp only [changeFiles, Job.run_bind, Job.run_get, Outcome.andThen, Job.run_ofExcept, failed]
  rfl

end Workspace

namespace Sample

variable {directory : FilePath} {game : String}

namespace Hindrances

variable {hindrances : Hindrances} {files made opened : FileTree} {file place : FilePath}

theorem makeDirectory_of_ok (making : hindrances.makeDirectory directory files = .ok ((), made)) :
    files.makeDirectory directory = .ok made := by
  rw [makeDirectory] at making
  cases answered : barring hindrances.making? (files.makeDirectory directory) with
  | error error => simp [answered, Except.map] at making
  | ok tree =>
      obtain rfl : tree = made := by simpa [answered, Except.map] using making
      exact (barring_eq_ok_iff.mp answered).2

theorem openEmpty_of_ok (opening : hindrances.openFile file files = .ok (place, opened)) :
    files.openEmpty file = .ok (place, opened) :=
  (barring_eq_ok_iff.mp opening).2

end Hindrances

/-- A call that exports a sample: what it finds in the database, what it is given, and what fails. -/
structure Call where
  database : Database
  failures : FailurePlan
  collection : String
  game : String
  limit : Int
  hindrances : Hindrances := .none

namespace Call

variable {call : Call} {workspace : Workspace} {files after made opened : FileTree} {place : FilePath}
  {result : Except Error (Option FilePath)}

def rules (call : Call) : FailureRules := call.failures.of call.collection

/-- The documents of the game in the order of the collection. -/
def matching (call : Call) : List Document :=
  (call.database.collection call.collection).documents.filter (·.isOf call.game)

/-- The documents that the limit leaves. -/
def selected (call : Call) : List Document := Cursor.limited call.limit call.matching

/-- What keeps the documents from being read. -/
def fault? (call : Call) : Option Fault :=
  call.rules.findFault?.or (Cursor.ofDocuments call.rules call.limit call.matching).fault?

/-- What reaches the file of the game: the whole text, unless the writing fails. -/
def arriving (call : Call) : String := call.hindrances.arriving (content call.selected)

theorem arriving_of_unfailing (unfailing : call.hindrances.writing? = none) :
    call.arriving = content call.selected := by
  rw [arriving, Hindrances.arriving, unfailing]

def run (call : Call) (directory : FilePath) (workspace : Workspace) : Outcome Workspace (Option FilePath) :=
  (write call.failures call.collection (.string call.game) call.limit directory call.hindrances).run
    { workspace with database := call.database }

/-- The documents have been read, and there are some. -/
structure Begins (call : Call) : Prop where
  readable : call.fault? = none
  some : call.selected ≠ []

/-- A call gets as far as opening its file: in which tree the directory stands, and which tree there is with
the file open. -/
structure Opens (call : Call) (directory : FilePath) (files made : FileTree) (place : FilePath)
    (opened : FileTree) : Prop extends call.Begins where
  making : call.hindrances.makeDirectory directory files = .ok ((), made)
  rendering : call.hindrances.rendering? = none
  opening : call.hindrances.openFile (path directory call.game) made = .ok (place, opened)

/-- How a call ends on some files, and which files it leaves. -/
inductive Ends (call : Call) (directory : FilePath) (files : FileTree) :
    Except Error (Option FilePath) → FileTree → Prop
  | unread {fault : Fault} : call.fault? = some fault → Ends call directory files (.error (.store fault)) files
  | empty : call.fault? = none → call.selected = [] → Ends call directory files (.ok none) files
  | unmade {error : Error} : call.Begins → call.hindrances.makeDirectory directory files = .error error →
      Ends call directory files (.error error) files
  | unrendered {made : FileTree} {fault : Fault} : call.Begins →
      call.hindrances.makeDirectory directory files = .ok ((), made) → call.hindrances.rendering? = some fault →
      Ends call directory files (.error (.store fault)) made
  | unopened {made : FileTree} {error : Error} : call.Begins →
      call.hindrances.makeDirectory directory files = .ok ((), made) → call.hindrances.rendering? = none →
      call.hindrances.openFile (path directory call.game) made = .error error →
      Ends call directory files (.error error) made
  | interrupted {made opened : FileTree} {place : FilePath} {count : Nat} {fault : Fault} :
      call.Opens directory files made place opened → call.hindrances.writing? = some (count, fault) →
      Ends call directory files (.error (.store fault)) (opened.fill place call.arriving)
  | written {made opened : FileTree} {place : FilePath} :
      call.Opens directory files made place opened → call.hindrances.writing? = none →
      Ends call directory files (.ok (some (path directory call.game))) (opened.fill place call.arriving)

theorem find_eq :
    (call.database.collection call.collection).find call.rules (.ofCondition Field.game (.string call.game)) =
      match call.rules.findFault? with
      | some fault => .error fault
      | none => .ok call.matching := by
  have accepted : (Filter.ofCondition Field.game (.string call.game)).accepts = Document.isOf call.game :=
    funext fun _ => Document.accepts_game
  rw [Collection.find, accepted]
  cases call.rules.findFault? <;> rfl

theorem run_select :
    (select call.rules (.string call.game) call.limit).run (call.database.collection call.collection) =
      ⟨match call.fault? with
        | some fault => .error (.store fault)
        | none => .ok call.selected,
        call.database.collection call.collection, []⟩ := by
  simp only [select, Job.run_bind, Job.run_get, Outcome.andThen, find_eq, fault?]
  cases call.rules.findFault? with
  | some fault => rfl
  | none =>
      simp only [Job.run_ofStore_ok, Option.none_or, Cursor.toList]
      cases stopped : (Cursor.ofDocuments call.rules call.limit call.matching).fault? with
      | some fault => rfl
      | none =>
          have whole : (Cursor.ofDocuments call.rules call.limit call.matching).documents = call.selected :=
            Cursor.documents_of_unstopped stopped
          rw [whole, Job.run_ofStore_ok]
          rfl

def fetched (call : Call) (workspace : Workspace) : Workspace :=
  ⟨call.database.looked call.collection, workspace.files, workspace.closed⟩

theorem run_fetching : (Workspace.onCollection call.collection
    (select call.rules (.string call.game) call.limit)).run { workspace with database := call.database } =
      ⟨match call.fault? with
        | some fault => .error (.store fault)
        | none => .ok call.selected,
        call.fetched workspace, []⟩ := by
  rw [Workspace.onCollection, Workspace.onDatabase, Job.run_within, Database.run_on_of_unchanged run_select, fetched]

theorem run_of_fault {fault : Fault} (stopped : call.fault? = some fault) :
    call.run directory workspace =
      ⟨.error (.store fault), call.fetched workspace, [.fetching call.limit call.game]⟩ := by
  have fetching := @run_fetching call workspace
  rw [stopped] at fetching
  exact Job.run_bind_of_ok (Job.run_tell _) (Job.run_bind_of_error fetching)

theorem run_of_none (readable : call.fault? = none) (none : call.selected = []) :
    call.run directory workspace =
      ⟨.ok Option.none, call.fetched workspace, [.fetching call.limit call.game, .noDocuments call.game]⟩ := by
  have fetching := @run_fetching call workspace
  rw [readable] at fetching
  refine Job.run_bind_of_ok (Job.run_tell _) (Job.run_bind_of_silent fetching ?_)
  rw [if_pos none]
  rfl

theorem run_of_begins (begins : call.Begins) {result : Except Error FilePath} {reached : Workspace}
    {notices : List Notice}
    (wrote : (writeFile call.hindrances call.selected directory call.game).run (call.fetched workspace) =
      ⟨result, reached, notices⟩) :
    call.run directory workspace =
      ⟨result.map Option.some, reached, .fetching call.limit call.game :: notices⟩ := by
  have fetching := @run_fetching call workspace
  rw [begins.readable] at fetching
  refine Job.run_bind_of_ok (Job.run_tell _) (Job.run_bind_of_silent fetching ?_)
  rw [if_neg begins.some]
  cases result with
  | error error => exact Job.run_bind_of_error wrote
  | ok path => exact Job.run_bind_pure_of_ok Option.some wrote

section Writing

variable {hindrances : Hindrances} {docs : List Document} {error : Error} {fault : Fault} {count : Nat}

theorem run_writeFile_of_unmade (failed : hindrances.makeDirectory directory workspace.files = .error error) :
    (writeFile hindrances docs directory game).run workspace = ⟨.error error, workspace, []⟩ :=
  Job.run_bind_of_error (Workspace.run_changeFiles_of_error failed)

theorem run_writeFile_of_unrendered
    (created : hindrances.makeDirectory directory workspace.files = .ok ((), made))
    (failed : hindrances.rendering? = some fault) :
    (writeFile hindrances docs directory game).run workspace =
      ⟨.error (.store fault), { workspace with files := made }, []⟩ := by
  refine Job.run_bind_of_silent (Workspace.run_changeFiles_of_ok created) ?_
  rw [failed]
  exact Job.run_bind_of_error (Job.run_stopOn_some fault)

theorem run_writeFile_of_unopened
    (created : hindrances.makeDirectory directory workspace.files = .ok ((), made))
    (rendered : hindrances.rendering? = none)
    (failed : hindrances.openFile (path directory game) made = .error error) :
    (writeFile hindrances docs directory game).run workspace =
      ⟨.error error, { workspace with files := made }, []⟩ := by
  refine Job.run_bind_of_silent (Workspace.run_changeFiles_of_ok created) ?_
  rw [rendered]
  exact Job.run_bind_of_silent Job.run_stopOn_none
    (Job.run_bind_of_error (Workspace.run_changeFiles_of_error failed))

variable (created : hindrances.makeDirectory directory workspace.files = .ok ((), made))
  (rendered : hindrances.rendering? = none)
  (opening : hindrances.openFile (path directory game) made = .ok (place, opened))

include created rendered opening

theorem run_writeFile_of_interrupted (failed : hindrances.writing? = some (count, fault)) :
    (writeFile hindrances docs directory game).run workspace =
      ⟨.error (.store fault),
        { workspace with files := opened.fill place (hindrances.arriving (content docs)) }, []⟩ := by
  refine Job.run_bind_of_silent (Workspace.run_changeFiles_of_ok created) ?_
  rw [rendered, failed]
  exact Job.run_bind_of_silent Job.run_stopOn_none
    (Job.run_bind_of_silent (Workspace.run_changeFiles_of_ok opening)
      (Job.run_bind_of_silent (Job.run_modify _) (Job.run_bind_of_error (Job.run_stopOn_some fault))))

theorem run_writeFile (unfailing : hindrances.writing? = none) :
    (writeFile hindrances docs directory game).run workspace =
      ⟨.ok (path directory game),
        { workspace with files := opened.fill place (hindrances.arriving (content docs)) },
        [.exported docs.length, .exportedFile (path directory game).text,
          .exportedSize (sizeText (content docs).length)]⟩ := by
  refine Job.run_bind_of_silent (Workspace.run_changeFiles_of_ok created) ?_
  rw [rendered, unfailing]
  exact Job.run_bind_of_silent Job.run_stopOn_none
    (Job.run_bind_of_silent (Workspace.run_changeFiles_of_ok opening)
      (Job.run_bind_of_silent (Job.run_modify _)
        (Job.run_bind_of_silent Job.run_stopOn_none (Job.run_tellAll_pure _ _))))

end Writing

theorem run_cases : ∃ result after, call.Ends directory workspace.files result after ∧ ∃ notices,
    call.run directory workspace = ⟨result, ⟨call.database.looked call.collection, after, workspace.closed⟩, notices⟩ := by
  cases stopped : call.fault? with
  | some fault => exact ⟨_, _, .unread stopped, _, run_of_fault stopped⟩
  | none =>
      by_cases none : call.selected = []
      · exact ⟨_, _, .empty stopped none, _, run_of_none stopped none⟩
      · have begins : call.Begins := ⟨stopped, none⟩
        cases making : call.hindrances.makeDirectory directory workspace.files with
        | error error =>
            exact ⟨_, _, .unmade begins making, _, run_of_begins begins (run_writeFile_of_unmade making)⟩
        | ok answer =>
            obtain ⟨⟨⟩, made⟩ := answer
            cases rendering : call.hindrances.rendering? with
            | some fault =>
                have wrote := run_of_begins begins (run_writeFile_of_unrendered making rendering)
                exact ⟨_, _, .unrendered begins making rendering, _, wrote⟩
            | none =>
                cases opening : call.hindrances.openFile (path directory call.game) made with
                | error error =>
                    have wrote := run_of_begins begins (run_writeFile_of_unopened making rendering opening)
                    exact ⟨_, _, .unopened begins making rendering opening, _, wrote⟩
                | ok answer =>
                    obtain ⟨place, opened⟩ := answer
                    have opens : call.Opens directory workspace.files made place opened :=
                      ⟨begins, making, rendering, opening⟩
                    cases writing : call.hindrances.writing? with
                    | some cut =>
                        have wrote := run_of_begins begins
                          (run_writeFile_of_interrupted making rendering opening writing)
                        exact ⟨_, _, .interrupted opens writing, _, wrote⟩
                    | none =>
                        have wrote := run_of_begins begins (run_writeFile making rendering opening writing)
                        exact ⟨_, _, .written opens writing, _, wrote⟩

theorem ends_run : call.Ends directory workspace.files (call.run directory workspace).result
    (call.run directory workspace).state.files := by
  obtain ⟨result, after, ended, notices, ran⟩ := @run_cases directory call workspace
  rw [ran]
  exact ended

/-- Whether a call gets as far as opening its file. -/
def opens (call : Call) (directory : FilePath) (files : FileTree) : Bool :=
  call.fault?.isNone && !call.selected.isEmpty && call.hindrances.rendering?.isNone &&
    ((call.hindrances.makeDirectory directory files).bind fun answer =>
      call.hindrances.openFile (path directory call.game) answer.2).isOk

/-- How a call ends that has opened its file. -/
def closing (call : Call) (directory : FilePath) : Except Error (Option FilePath) :=
  match call.hindrances.writing? with
  | some (_, fault) => .error (.store fault)
  | none => .ok (some (path directory call.game))

namespace Opens

theorem opens_eq (reached : call.Opens directory files made place opened) : call.opens directory files = true := by
  simp [opens, reached.readable, reached.some, reached.rendering, reached.making, reached.opening, Except.bind,
    Except.isOk, Except.toBool]

/-- The file is at the place of its game, and what arrives in it is read there. -/
theorem filled (reached : call.Opens directory files made place opened) :
    (path directory call.game).Accepted ∧ files.makeDirectory directory = .ok made ∧
      made.lookup? (path directory call.game).place ≠ some .directory ∧
      opened.fill place call.arriving = Entries.put made (path directory call.game).place (.file call.arriving) ∧
      (opened.fill place call.arriving).read? (path directory call.game) = some call.arriving := by
  obtain ⟨accepted, free, _, filled, held⟩ :=
    FileTree.openEmpty_cases (Hindrances.openEmpty_of_ok reached.opening) call.arriving
  exact ⟨accepted, Hindrances.makeDirectory_of_ok reached.making, free, filled, held⟩

end Opens

namespace Ends

/-- A call that opens no file returns no path, and has made its directory at most; another one leaves in its
file what has arrived there. -/
theorem opens_cases (ended : call.Ends directory files result after) :
    (call.opens directory files = false ∧ (∀ file, result ≠ .ok (some file)) ∧
        (after = files ∨ files.makeDirectory directory = .ok after)) ∨
      (call.opens directory files = true ∧ result = call.closing directory ∧ (path directory call.game).Accepted ∧
        ∃ made, files.makeDirectory directory = .ok made ∧
          made.lookup? (path directory call.game).place ≠ some .directory ∧
          after = Entries.put made (path directory call.game).place (.file call.arriving) ∧
          after.read? (path directory call.game) = some call.arriving) := by
  cases ended with
  | unread found => exact .inl ⟨by simp [opens, found], nofun, .inl rfl⟩
  | empty _ none => exact .inl ⟨by simp [opens, none], nofun, .inl rfl⟩
  | unmade _ making =>
      exact .inl ⟨by simp [opens, making, Except.bind, Except.isOk, Except.toBool], nofun, .inl rfl⟩
  | unrendered _ making rendering =>
      exact .inl ⟨by simp [opens, rendering], nofun, .inr (Hindrances.makeDirectory_of_ok making)⟩
  | unopened _ making _ opening =>
      exact .inl ⟨by simp [opens, making, opening, Except.bind, Except.isOk, Except.toBool], nofun,
        .inr (Hindrances.makeDirectory_of_ok making)⟩
  | interrupted reached writing | written reached writing =>
      obtain ⟨accepted, making, free, filled, held⟩ := reached.filled
      exact .inr ⟨reached.opens_eq, by rw [closing, writing], accepted, _, making, free, filled, held⟩

theorem files_of_unopened (ended : call.Ends directory files result after)
    (unopened : call.opens directory files = false) : after = files ∨ files.makeDirectory directory = .ok after := by
  obtain ⟨_, _, kept⟩ | ⟨opens, _⟩ := ended.opens_cases
  · exact kept
  · cases unopened.symm.trans opens

theorem files_of_opened (ended : call.Ends directory files result after)
    (opened : call.opens directory files = true) :
    (path directory call.game).Accepted ∧ ∃ made, files.makeDirectory directory = .ok made ∧
      made.lookup? (path directory call.game).place ≠ some .directory ∧
      after = Entries.put made (path directory call.game).place (.file call.arriving) ∧
      after.read? (path directory call.game) = some call.arriving := by
  obtain ⟨unopened, _⟩ | ⟨_, _, filled⟩ := ended.opens_cases
  · cases opened.symm.trans unopened
  · exact filled

theorem contentAt?_of_unopened (ended : call.Ends directory files result after)
    (unopened : call.opens directory files = false) : after.contentAt? place = files.contentAt? place := by
  rcases ended.files_of_unopened unopened with rfl | making
  · rfl
  · exact FileTree.contentAt?_makeDirectory making

theorem contentAt?_of_ne (ended : call.Ends directory files result after)
    (different : place ≠ (path directory call.game).place) : after.contentAt? place = files.contentAt? place := by
  cases opening : call.opens directory files with
  | false => exact ended.contentAt?_of_unopened opening
  | true =>
      obtain ⟨_, made, making, _, rfl, _⟩ := ended.files_of_opened opening
      rw [FileTree.contentAt?_put_of_ne different, FileTree.contentAt?_makeDirectory making]

theorem contentAt?_of_opened (ended : call.Ends directory files result after)
    (opened : call.opens directory files = true) :
    after.contentAt? (path directory call.game).place = some call.arriving := by
  obtain ⟨_, made, _, free, rfl, _⟩ := ended.files_of_opened opened
  exact FileTree.contentAt?_put_file (FileTree.below_of_lookup? free)

theorem stands_of_opened (ended : call.Ends directory files result after)
    (opened : call.opens directory files = true) : after.Stands directory := by
  obtain ⟨_, made, making, free, rfl, _⟩ := ended.files_of_opened opened
  exact (FileTree.makeDirectory_cases making).1.put free

theorem stands_of_stands (ended : call.Ends directory files result after) (stands : files.Stands directory) :
    after.Stands directory := by
  cases opening : call.opens directory files with
  | true => exact ended.stands_of_opened opening
  | false =>
      rcases ended.files_of_unopened opening with rfl | making
      · exact stands
      · exact (FileTree.makeDirectory_cases making).1

end Ends

def AtMostMade (directory : FilePath) (files after : FileTree) : Prop :=
  after = files ∨ files.lookup? directory.place = none ∧ after = Entries.put files directory.place .directory

theorem atMostMade_of_makeDirectory (making : files.makeDirectory directory = .ok made) :
    AtMostMade directory files made := (FileTree.makeDirectory_cases making).2

/-- What a call keeps to, in whatever state it finds the database and the files. -/
structure Keeps (call : Call) (directory : FilePath) (before : Workspace)
    (outcome : Outcome Workspace (Option FilePath)) : Prop where
  unread : ∀ fault, call.fault? = some fault → outcome.result = .error (.store fault)
  none_iff : outcome.result = .ok none ↔ call.fault? = none ∧ call.selected = []
  none_files : outcome.result = .ok none → outcome.state.files = before.files
  unopened_result : call.opens directory before.files = false → ∀ file, outcome.result ≠ .ok (some file)
  opened_result : call.opens directory before.files = true → outcome.result = call.closing directory
  unopened_files : call.opens directory before.files = false →
    AtMostMade directory before.files outcome.state.files
  opened_files : call.opens directory before.files = true → ∃ made, AtMostMade directory before.files made ∧
    outcome.state.files = Entries.put made (path directory call.game).place (.file call.arriving)
  collections : ∀ name, outcome.state.database.collection name = call.database.collection name
  names : outcome.state.database.names = call.database.names

theorem Ends.keeps (ended : call.Ends directory workspace.files result after) {notices : List Notice} {closed : Nat} :
    call.Keeps directory workspace ⟨result, ⟨call.database.looked call.collection, after, closed⟩, notices⟩ where
  unread fault found := by
    cases ended with
    | unread other =>
        obtain rfl := Option.some.inj (other.symm.trans found)
        rfl
    | empty readable => cases readable.symm.trans found
    | unmade begins | unrendered begins | unopened begins => cases begins.readable.symm.trans found
    | interrupted reached | written reached => cases reached.readable.symm.trans found
  none_iff := by
    cases ended with
    | unread found => simp [found]
    | empty readable none => simp [readable, none]
    | unmade begins | unrendered begins | unopened begins => simp [begins.some]
    | interrupted reached | written reached => simp [reached.some]
  none_files := by
    cases ended with
    | empty => exact fun _ => rfl
    | _ => nofun
  unopened_result unopened := by
    obtain ⟨_, unexported, _⟩ | ⟨opened, _⟩ := ended.opens_cases
    · exact unexported
    · cases unopened.symm.trans opened
  opened_result opened := by
    obtain ⟨unopened, _⟩ | ⟨_, closed, _⟩ := ended.opens_cases
    · cases opened.symm.trans unopened
    · exact closed
  unopened_files unopened := by
    rcases ended.files_of_unopened unopened with rfl | making
    · exact .inl rfl
    · exact atMostMade_of_makeDirectory making
  opened_files opened := by
    obtain ⟨_, made, making, _, filled, _⟩ := ended.files_of_opened opened
    exact ⟨made, atMostMade_of_makeDirectory making, filled⟩
  collections name := Database.collection_looked
  names := Database.names_looked

theorem keeps_run : call.Keeps directory workspace (call.run directory workspace) := by
  obtain ⟨result, after, ended, notices, ran⟩ := @run_cases directory call workspace
  rw [ran]
  exact ended.keeps

/-- A path is returned once the whole text has been written, and it is the path of the game. -/
theorem run_eq_path_iff {file : FilePath} : (call.run directory workspace).result = .ok (some file) ↔
    call.opens directory workspace.files = true ∧ call.hindrances.writing? = none ∧
      path directory call.game = file := by
  have keeps := @keeps_run directory call workspace
  cases opening : call.opens directory workspace.files with
  | false => simp [keeps.unopened_result opening]
  | true =>
      rw [keeps.opened_result opening, closing]
      cases call.hindrances.writing? <;> simp

end Call

end Sample
end GameLogs
