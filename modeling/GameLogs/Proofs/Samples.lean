import GameLogs.Proofs.SampleCalls
namespace GameLogs

/-! Samples that are exported one after another.

Every call finds the database in a state of its own and the files as the calls before it left them.  The games
have files of their own, so that the last call which opened a game's file says what it holds.
-/

namespace Sample

variable {directory : FilePath} {game other : String}

theorem fileName_chars : (fileName game).toList = "logdata_".toList ++ game.toList ++ "_sample.json".toList := by
  have parts : fileName game = "logdata" ++ "_" ++ game ++ "_sample.json" := rfl
  simp [parts]

theorem fileName_injective : Function.Injective fileName := by
  intro game other same
  have chars := congrArg String.toList same
  rw [fileName_chars, fileName_chars] at chars
  exact String.toList_injective (List.append_cancel_left (List.append_cancel_right chars))

theorem fileName_ne_of_head {name : String} (short : name.toList.head? ≠ some 'l') : fileName game ≠ name := by
  rintro rfl
  rw [fileName_chars] at short
  exact short rfl

theorem ofText_fileName (whole : '/' ∉ game.toList) : FilePath.ofText (fileName game) = [fileName game] := by
  have single : ∀ c ∈ (fileName game).toList, (c == '/') = false := by
    intro c member
    rw [fileName_chars, List.mem_append, List.mem_append] at member
    rw [beq_eq_false_iff_ne]
    rintro rfl
    rcases member with (opening | named) | ending
    · revert opening; decide
    · exact whole named
    · revert ending; decide
  have nonempty : fileName game ≠ "" := fileName_ne_of_head (by decide)
  have proper : fileName game ≠ "." := fileName_ne_of_head (by decide)
  rw [FilePath.ofText, List.splitOnP_eq_singleton single, List.map_singleton, String.ofList_toList]
  simp [nonempty, proper]

theorem path_eq (whole : '/' ∉ game.toList) : path directory game = directory ++ [fileName game] := by
  rw [path, ofText_fileName whole]

theorem fileName_ne_parent : fileName game ≠ ".." := fileName_ne_of_head (by decide)

theorem place_path (whole : '/' ∉ game.toList) :
    (path directory game).place = directory.place ++ [fileName game] := by
  rw [path_eq whole, FilePath.place_append_name fileName_ne_parent]

/-- Two games never share a file. -/
theorem game_eq_of_place (whole : '/' ∉ game.toList) (otherWhole : '/' ∉ other.toList)
    (same : (path directory game).place = (path directory other).place) : game = other := by
  rw [place_path whole, place_path otherWhole] at same
  exact fileName_injective (List.singleton_inj.mp (List.append_cancel_left same))

def runAll (directory : FilePath) (calls : List Call) (workspace : Workspace) : Workspace :=
  calls.foldl (fun workspace call => (call.run directory workspace).state) workspace

/-- The calls among several that open their files. -/
def openings (directory : FilePath) : List Call → Workspace → List Call
  | [], _ => []
  | call :: rest, workspace =>
      let later := openings directory rest (call.run directory workspace).state
      if call.opens directory workspace.files then call :: later else later

/-- The last call for a game that opens its file. -/
def lastOpening? (directory : FilePath) (calls : List Call) (workspace : Workspace) (game : String) : Option Call :=
  ((openings directory calls workspace).filter fun call => call.game = game).getLast?

variable {call : Call} {calls : List Call} {workspace : Workspace} {place : FilePath}

theorem lastOpening?_cons : lastOpening? directory (call :: calls) workspace game =
    (lastOpening? directory calls (call.run directory workspace).state game).or
      (if call.opens directory workspace.files ∧ call.game = game then some call else none) := by
  rw [lastOpening?, openings, lastOpening?]
  by_cases opening : call.opens directory workspace.files
  · by_cases named : call.game = game <;> simp [opening, named, List.getLast?_cons]
  · simp [opening]

theorem mem_openings_of_lastOpening? (last : lastOpening? directory calls workspace game = some call) :
    call ∈ openings directory calls workspace ∧ call.game = game := by
  have member := List.mem_of_getLast? last
  simpa using List.mem_filter.mp member

theorem contentAt?_runAll_of_ne (elsewhere : ∀ call ∈ calls, place ≠ (path directory call.game).place) :
    (runAll directory calls workspace).files.contentAt? place = workspace.files.contentAt? place := by
  induction calls generalizing workspace with
  | nil => rfl
  | cons call rest ih =>
      rw [List.forall_mem_cons] at elsewhere
      exact (ih elsewhere.2).trans (Call.ends_run.contentAt?_of_ne elsewhere.1)

theorem contentAt?_run (whole : '/' ∉ game.toList) (callWhole : '/' ∉ call.game.toList) :
    (call.run directory workspace).state.files.contentAt? (path directory game).place =
      ((if call.opens directory workspace.files ∧ call.game = game then some call else none).map
        Call.arriving).or (workspace.files.contentAt? (path directory game).place) := by
  have ended := @Call.ends_run directory call workspace
  by_cases named : call.game = game
  · subst named
    cases opening : call.opens directory workspace.files with
    | true => simpa using ended.contentAt?_of_opened opening
    | false => simpa using ended.contentAt?_of_unopened opening
  · have different : (path directory game).place ≠ (path directory call.game).place :=
      fun same => named (game_eq_of_place whole callWhole same).symm
    simpa [named] using ended.contentAt?_of_ne different

/-- A game's file holds what the last call for it that opened the file has written, and what it held before if
there is none. -/
theorem contentAt?_runAll (whole : '/' ∉ game.toList) (callsWhole : ∀ call ∈ calls, '/' ∉ call.game.toList) :
    (runAll directory calls workspace).files.contentAt? (path directory game).place =
      ((lastOpening? directory calls workspace game).map Call.arriving).or
        (workspace.files.contentAt? (path directory game).place) := by
  induction calls generalizing workspace with
  | nil => rfl
  | cons call rest ih =>
      rw [List.forall_mem_cons] at callsWhole
      rw [lastOpening?_cons, Option.map_or, Option.or_assoc, ← contentAt?_run whole callsWhole.1]
      exact ih callsWhole.2

theorem stands_runAll (stands : workspace.files.Stands directory) :
    (runAll directory calls workspace).files.Stands directory := by
  induction calls generalizing workspace with
  | nil => exact stands
  | cons call rest ih => exact ih (Call.ends_run.stands_of_stands stands)

theorem stands_of_mem_openings (member : call ∈ openings directory calls workspace) :
    (runAll directory calls workspace).files.Stands directory ∧ (path directory call.game).Accepted := by
  induction calls generalizing workspace with
  | nil => cases member
  | cons first rest ih =>
      rw [openings] at member
      split at member
      case isTrue opening =>
        have ended := @Call.ends_run directory first workspace
        rcases List.mem_cons.mp member with rfl | later
        · exact ⟨@stands_runAll directory rest _ (ended.stands_of_opened opening),
            (ended.files_of_opened opening).1⟩
        · exact ih later
      case isFalse => exact ih member

/-- After several calls the file of every game holds what the last call that opened it has written: the text of
its documents, or the part of it that came before a failure.  A game's file that no call has opened is as it
was, no other content has changed, and no two of the games share a file.  Each of the calls exports nothing if there
are no documents.  It changes no collection; unless it opens its file it makes its directory at most, and
otherwise it changes no other file. -/
theorem files_hold_last_texts (directory : FilePath) (calls : List Call) (workspace : Workspace)
    (callsWhole : ∀ call ∈ calls, '/' ∉ call.game.toList) :
    let files := (runAll directory calls workspace).files
    (∀ game, '/' ∉ game.toList →
      match lastOpening? directory calls workspace game with
      | some call => files.read? (path directory game) = some call.arriving ∧
          files.contentAt? (path directory game).place = some call.arriving
      | none => files.contentAt? (path directory game).place =
          workspace.files.contentAt? (path directory game).place) ∧
    (∀ place, (∀ call ∈ calls, place ≠ (path directory call.game).place) →
      files.contentAt? place = workspace.files.contentAt? place) ∧
    (∀ first ∈ calls, ∀ second ∈ calls,
      (path directory first.game).place = (path directory second.game).place → first.game = second.game) ∧
    ∀ (call : Call) (before : Workspace), call.Keeps directory before (call.run directory before) := by
  refine ⟨fun game whole => ?_, fun place elsewhere => contentAt?_runAll_of_ne elsewhere,
    fun first member second another => game_eq_of_place (callsWhole first member) (callsWhole second another),
    fun call before => Call.keeps_run⟩
  have stored := @contentAt?_runAll directory game calls workspace whole callsWhole
  cases last : lastOpening? directory calls workspace game with
  | none => rwa [last] at stored
  | some call =>
      rw [last, Option.map_some, Option.some_or] at stored
      obtain ⟨member, rfl⟩ := mem_openings_of_lastOpening? last
      obtain ⟨stands, accepted⟩ := stands_of_mem_openings member
      refine ⟨?_, stored⟩
      rw [path_eq whole] at accepted ⊢
      rw [stands.read? fileName_ne_parent accepted, ← place_path whole, stored]

def tetrisSpecimen : List Document :=
  [[("_id", .int 1), ("game", .string "tetris")], [("_id", .int 3), ("game", .string "tetris")]]

def databaseSpecimen : Database where
  collections := [("logdata", .ofDocuments (tetrisSpecimen ++ [[("_id", .int 2), ("game", .string "snake")]]))]

def fullDevice : Fault := ⟨.device, "[Errno 28] No space left on device"⟩

def snakeCall : Call := ⟨databaseSpecimen, [], "logdata", "snake", 0, .none⟩

/-- The device is full when three characters have been written. -/
def interruptedCall : Call := { snakeCall with hindrances := { Hindrances.none with writing? := some (3, fullDevice) } }

/-- Of six calls the second and the fourth export.  The first and the fifth find no documents, the third is
stopped before it opens a file, and the last one while it writes. -/
def callsSpecimen : List Call :=
  [⟨.empty, [], "logdata", "chess", 200, .none⟩,
    ⟨databaseSpecimen, [], "logdata", "tetris", 1, .none⟩,
    ⟨databaseSpecimen, [("logdata", .find ⟨.operation, "stopped"⟩)], "logdata", "pong", 0, .none⟩,
    ⟨databaseSpecimen, [], "logdata", "tetris", 0, .none⟩,
    ⟨databaseSpecimen, [], "logdata", "tetris", -2, .none⟩,
    interruptedCall]

def workspaceSpecimen : Workspace := ⟨.empty, [(["notes.txt"], .file "kept")], 0⟩

theorem files_hold_last_texts_specimen :
    let files := (runAll ["samples"] callsSpecimen workspaceSpecimen).files
    (∀ call ∈ callsSpecimen, '/' ∉ call.game.toList) ∧
      files.read? (path ["samples"] "tetris") = some (content tetrisSpecimen) ∧
      files.read? (path ["samples"] "snake") = some "[\n " ∧
      files.contentAt? (path ["samples"] "pong").place = none ∧ files.contentAt? ["notes.txt"] = some "kept" := by
  intro files
  have whole : ∀ call ∈ callsSpecimen, '/' ∉ call.game.toList := by decide
  obtain ⟨held, kept, _, _⟩ := files_hold_last_texts ["samples"] callsSpecimen workspaceSpecimen whole
  have tetris : lastOpening? ["samples"] callsSpecimen workspaceSpecimen "tetris" =
      some ⟨databaseSpecimen, [], "logdata", "tetris", 0, .none⟩ := rfl
  have snake : lastOpening? ["samples"] callsSpecimen workspaceSpecimen "snake" = some interruptedCall := rfl
  have pong : lastOpening? ["samples"] callsSpecimen workspaceSpecimen "pong" = none := rfl
  have exported := held "tetris" (by decide)
  have interrupted := held "snake" (by decide)
  have unopened := held "pong" (by decide)
  rw [tetris] at exported
  rw [snake] at interrupted
  rw [pong] at unopened
  exact ⟨whole, exported.1, interrupted.1, unopened, kept ["notes.txt"] (by decide)⟩

/-- A call that is stopped while it writes destroys what an earlier call exported, and a call that cannot read stops
even where there is nothing to export. -/
theorem stopped_call_destroys_sample :
    (¬ ∀ (call : Call) (directory : FilePath) (workspace : Workspace) (error : Error),
      (call.run directory workspace).result = .error error → ∀ place,
        (call.run directory workspace).state.files.contentAt? place = workspace.files.contentAt? place) ∧
    ¬ ∀ (call : Call) (directory : FilePath) (workspace : Workspace),
      (call.run directory workspace).result = .ok none ↔ call.selected = [] := by
  refine ⟨fun keeps => ?_, fun empty => ?_⟩
  · let exported := (snakeCall.run ["samples"] workspaceSpecimen).state
    have whole : exported.files.contentAt? (path ["samples"] "snake").place = some (content snakeCall.selected) :=
      Call.ends_run.contentAt?_of_opened rfl
    have cut : (interruptedCall.run ["samples"] exported).state.files.contentAt?
        (path ["samples"] "snake").place = some "[\n " :=
      Call.ends_run.contentAt?_of_opened rfl
    have same := keeps interruptedCall ["samples"] exported (.store fullDevice) rfl (path ["samples"] "snake").place
    rw [cut, whole] at same
    exact absurd same (by decide)
  · have stopped := (empty ⟨.empty, [("logdata", .find ⟨.operation, "stopped"⟩)], "logdata", "pong", 0, .none⟩
      ["samples"] workspaceSpecimen).mpr rfl
    cases stopped

end Sample
end GameLogs
