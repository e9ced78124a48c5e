import GameLogs.Proofs.Indexes
import GameLogs.Proofs.Setting
namespace GameLogs

/-! What building indexes comes to, request by request.

Every complete request is attempted: its name is reported as built or as failed, and nothing else tells
the two apart than whether the store refuses the name.  An incomplete request ends the run with the effects
of the requests before it.
-/

namespace IndexRequest

variable {request : IndexRequest} {requests : List IndexRequest} {rules : FailureRules} {name : String}
  {keys : List (String × Int)}

def IsComplete (request : IndexRequest) : Prop := request.keys?.isSome = true ∧ request.name?.isSome = true

instance : DecidablePred IsComplete := fun request =>
  inferInstanceAs (Decidable (request.keys?.isSome = true ∧ request.name?.isSome = true))

theorem IsComplete.exists_eq (whole : request.IsComplete) : ∃ keys name, request = ⟨some keys, some name⟩ := by
  obtain ⟨keys?, name?⟩ := request
  obtain ⟨keys, rfl⟩ := Option.isSome_iff_exists.mp whole.1
  obtain ⟨name, rfl⟩ := Option.isSome_iff_exists.mp whole.2
  exact ⟨keys, name, rfl⟩

theorem IsComplete.exists_complete (whole : request.IsComplete) :
    ∃ name keys, request.complete = .ok (name, keys) := by
  obtain ⟨keys, name, rfl⟩ := whole.exists_eq
  exact ⟨name, keys, rfl⟩

/-- What stops a run at an incomplete request: the keys are looked for first. -/
def lack (request : IndexRequest) : Error := .missingEntry (if request.keys? = none then "keys" else "name")

theorem complete_of_not_isComplete (incomplete : ¬ request.IsComplete) : request.complete = .error request.lack := by
  obtain ⟨keys?, name?⟩ := request
  cases keys? with
  | none => rfl
  | some keys =>
      cases name? with
      | none => rfl
      | some name => exact absurd ⟨rfl, rfl⟩ incomplete

theorem exists_first_incomplete (lacking : ∃ request ∈ requests, ¬ request.IsComplete) :
    ∃ earlier request later, requests = earlier ++ request :: later ∧
      (∀ other ∈ earlier, other.IsComplete) ∧ ¬ request.IsComplete := by
  induction requests with
  | nil => simp at lacking
  | cons first rest ih =>
      by_cases whole : first.IsComplete
      · have beyond : ∃ request ∈ rest, ¬ request.IsComplete := by simpa [whole] using lacking
        obtain ⟨earlier, request, later, rfl, before, here⟩ := ih beyond
        exact ⟨first :: earlier, request, later, rfl, List.forall_mem_cons.mpr ⟨whole, before⟩, here⟩
      · exact ⟨[], first, rest, rfl, by simp, whole⟩

/-- The last of the requests under a name. -/
theorem exists_last (named : ∃ request ∈ requests, request.name? = some name) :
    ∃ earlier request later, requests = earlier ++ request :: later ∧ request.name? = some name ∧
      ∀ other ∈ later, other.name? ≠ some name := by
  induction requests with
  | nil => simp at named
  | cons first rest ih =>
      by_cases again : ∃ request ∈ rest, request.name? = some name
      · obtain ⟨earlier, request, later, rfl, here, after⟩ := ih again
        exact ⟨first :: earlier, request, later, rfl, here, after⟩
      · have here : first.name? = some name := by simpa [again] using named
        exact ⟨[], first, rest, rfl, here, fun other member same => again ⟨other, member, same⟩⟩

theorem mem_keys_entries (member : name ∈ Entries.keys (requests.filterMap (IndexRequest.entry? rules))) :
    rules.indexFault? name = none ∧ ∃ request ∈ requests, request.name? = some name := by
  obtain ⟨⟨stored, index⟩, entered, rfl⟩ := List.mem_map.mp member
  obtain ⟨request, asked, found⟩ := List.mem_filterMap.mp entered
  obtain ⟨keys?, name?⟩ := request
  cases keys? with
  | none => cases found
  | some keys =>
      cases name? with
      | none => cases found
      | some other =>
          obtain ⟨free, same⟩ := Option.ite_some_none_eq_some.mp found
          obtain ⟨rfl, _⟩ := Prod.mk.inj same
          exact ⟨free, _, asked, rfl⟩

end IndexRequest

namespace IndexReport

variable {rules : FailureRules} {requests : List IndexRequest} {name : String}

theorem mem_built_iff : name ∈ (ofRequests rules requests).built ↔
    rules.indexFault? name = none ∧ ∃ request ∈ requests, request.name? = some name := by
  simp only [ofRequests, List.mem_filter, List.mem_filterMap, Option.isNone_iff_eq_none]
  exact and_comm

end IndexReport

namespace Collection

variable {collection : Collection} {rules : FailureRules} {requests : List IndexRequest} {name : String}

theorem item?_indexed_of_built (complete : ∀ request ∈ requests, request.IsComplete)
    (built : name ∈ (IndexReport.ofRequests rules requests).built) :
    ∃ earlier keys later, requests = earlier ++ ⟨some keys, some name⟩ :: later ∧
      (∀ other ∈ later, other.name? ≠ some name) ∧
      (collection.indexed rules requests).indexes.item? name = some ⟨keys, true⟩ := by
  obtain ⟨free, named⟩ := IndexReport.mem_built_iff.mp built
  obtain ⟨earlier, request, later, rfl, here, after⟩ := IndexRequest.exists_last named
  obtain ⟨keys, other, rfl⟩ := (complete request (by simp)).exists_eq
  obtain rfl : other = name := Option.some.inj here
  refine ⟨earlier, keys, later, rfl, after, ?_⟩
  have entered : IndexRequest.entry? rules ⟨some keys, some other⟩ = some (other, ⟨keys, true⟩) := by
    simp [IndexRequest.entry?, IndexRequest.complete, free]
  have last : other ∉ Entries.keys (later.filterMap (IndexRequest.entry? rules)) := by
    intro member
    obtain ⟨_, request, asked, same⟩ := IndexRequest.mem_keys_entries member
    exact after request asked same
  rw [indexed, List.filterMap_append, List.filterMap_cons, entered]
  exact Entries.item?_putAll_of_last last

theorem item?_indexed_of_not_built (unbuilt : name ∉ (IndexReport.ofRequests rules requests).built) :
    (collection.indexed rules requests).indexes.item? name = collection.indexes.item? name := by
  apply Entries.item?_putAll_of_not_mem
  intro member
  exact unbuilt (IndexReport.mem_built_iff.mpr (IndexRequest.mem_keys_entries member))

end Collection

variable {collection : Collection} {rules : FailureRules} {requests earlier later : List IndexRequest}
  {request : IndexRequest}

theorem run_buildIndexes_of_incomplete
    (complete : ∀ other ∈ earlier, other.IsComplete)
    (survivable : ∀ name fault, rules.indexFault? name = some fault → fault.kind.isStore = true)
    (incomplete : ¬ request.IsComplete) :
    (buildIndexes rules (earlier ++ request :: later)).run collection =
      ⟨.error request.lack, ((buildIndexes rules earlier).run collection).state,
        ((buildIndexes rules earlier).run collection).notices⟩ := by
  have whole : ∀ other ∈ earlier, ∃ name keys, other.complete = .ok (name, keys) :=
    fun other member => (complete other member).exists_complete
  have reached := @run_buildIndexes collection rules earlier whole survivable
  have stopped : ∀ (report : IndexReport) (middle : Collection),
      ((request :: later).foldlM (buildIndex rules) report).run middle = ⟨.error request.lack, middle, []⟩ := by
    intro report middle
    rw [List.foldlM_cons]
    exact Job.run_bind_of_error (run_buildIndex_of_incomplete (IndexRequest.complete_of_not_isComplete incomplete))
  rw [buildIndexes, List.foldlM_append]
  rw [buildIndexes] at reached
  rw [Job.run_bind_of_ok reached (stopped _ _), buildIndexes, reached, List.append_nil]

theorem IndexReport.perm_ofRequests :
    ((ofRequests rules requests).built ++ (ofRequests rules requests).failed).Perm
      (requests.filterMap IndexRequest.name?) := by
  have refused : ∀ name, (rules.indexFault? name).isSome = !(rules.indexFault? name).isNone := by
    intro name
    cases rules.indexFault? name <;> rfl
  simp only [ofRequests, refused]
  exact List.filter_append_perm _ _

/-- With faults of the store alone, a run attempts every request in order.  If all are complete, it reports
as built the names that are not refused and as failed the others; under a name that was built stand the keys of
the last request for it, every other index and the documents are as they were, and another run changes
nothing and reports the same.  At the first incomplete request a run stops for what the request lacks, with
the effects of the requests before it. -/
theorem buildIndexes_attempts_all (collection : Collection) (rules : FailureRules)
    (survivable : ∀ name fault, rules.indexFault? name = some fault → fault.kind.isStore = true)
    (requests : List IndexRequest) :
    let names := requests.filterMap IndexRequest.name?
    let outcome := (buildIndexes rules requests).run collection
    ((∀ request ∈ requests, request.IsComplete) →
      ∃ report, outcome.result = .ok report ∧
        report.built = (names.filter fun name => (rules.indexFault? name).isNone) ∧
        report.failed = (names.filter fun name => (rules.indexFault? name).isSome) ∧
        (report.built ++ report.failed).Perm names ∧
        outcome.notices = requests.flatMap (IndexRequest.notices rules) ∧
        (∀ name ∈ report.built, ∃ earlier keys later, requests = earlier ++ ⟨some keys, some name⟩ :: later ∧
          (∀ other ∈ later, other.name? ≠ some name) ∧
          outcome.state.indexes.item? name = some ⟨keys, true⟩) ∧
        (∀ name ∉ report.built, outcome.state.indexes.item? name = collection.indexes.item? name) ∧
        outcome.state.documents = collection.documents ∧
        (buildIndexes rules requests).run outcome.state = outcome) ∧
    ((∃ request ∈ requests, ¬ request.IsComplete) →
      ∃ earlier request later, requests = earlier ++ request :: later ∧
        (∀ other ∈ earlier, other.IsComplete) ∧ ¬ request.IsComplete ∧
        let reached := (buildIndexes rules earlier).run collection
        (∃ report, reached.result = .ok report) ∧
          outcome.result = .error (.missingEntry (if request.keys? = none then "keys" else "name")) ∧
          outcome.state = reached.state ∧ outcome.notices = reached.notices) := by
  refine ⟨fun complete => ?_, fun lacking => ?_⟩
  · have whole : ∀ request ∈ requests, ∃ name keys, request.complete = .ok (name, keys) :=
      fun request member => (complete request member).exists_complete
    have ran := fun start => @run_buildIndexes start rules requests whole survivable
    rw [ran collection]
    refine ⟨_, rfl, rfl, rfl, IndexReport.perm_ofRequests, rfl, fun name built => ?_, fun name unbuilt => ?_, rfl, ?_⟩
    · exact Collection.item?_indexed_of_built complete built
    · exact Collection.item?_indexed_of_not_built unbuilt
    · rw [ran, Collection.indexed_again]
  · obtain ⟨earlier, request, later, rfl, before, here⟩ := IndexRequest.exists_first_incomplete lacking
    refine ⟨earlier, request, later, rfl, before, here, ?_⟩
    have whole : ∀ other ∈ earlier, ∃ name keys, other.complete = .ok (name, keys) :=
      fun other member => (before other member).exists_complete
    rw [run_buildIndexes_of_incomplete before survivable here, run_buildIndexes whole survivable]
    exact ⟨⟨_, rfl⟩, rfl, rfl, rfl⟩

/-- Two of the names are asked for twice, and the collection has indexes under two names. -/
def indexSpecimen : List IndexRequest :=
  [⟨some [("game", 1)], some "idx_a"⟩, ⟨some [("game", 1)], some "idx_b"⟩, ⟨some [("score", 1)], some "idx_c"⟩,
    ⟨some [("playerId", -1)], some "idx_a"⟩, ⟨some [("score", -1)], some "idx_b"⟩]

def indexedSpecimen : Collection where
  documents := [[("_id", .int 1)]]
  indexes := [("idx_c", ⟨[("level", 1)], false⟩), ("idx_d", ⟨[("level", -1)], false⟩)]
  present := true

theorem buildIndexes_attempts_all_specimen :
    let rules := (Setting.refusing [] ["idx_b"]).targetRules
    let outcome := (buildIndexes rules indexSpecimen).run indexedSpecimen
    let stopped := (buildIndexes rules (indexSpecimen ++ [⟨none, some "idx_e"⟩])).run indexedSpecimen
    (∀ name fault, rules.indexFault? name = some fault → fault.kind.isStore = true) ∧
      (∀ request ∈ indexSpecimen, request.IsComplete) ∧
      (∃ report, outcome.result = .ok report ∧ report.built = ["idx_a", "idx_c", "idx_a"] ∧
        report.failed = ["idx_b", "idx_b"]) ∧
      outcome.state.indexes.item? "idx_d" = some ⟨[("level", -1)], false⟩ ∧
      (buildIndexes rules indexSpecimen).run outcome.state = outcome ∧
      stopped.result = .error (.missingEntry "keys") := by
  intro rules outcome stopped
  have survivable := (@Setting.orderly_refusing [] ["idx_b"]).index
  have complete : ∀ request ∈ indexSpecimen, request.IsComplete := by decide
  have lacking : ∃ request ∈ indexSpecimen ++ [⟨none, some "idx_e"⟩], ¬ request.IsComplete := by decide
  obtain ⟨report, ended, built, failed, _, _, _, kept, _, again⟩ :=
    (buildIndexes_attempts_all indexedSpecimen rules survivable indexSpecimen).1 complete
  obtain ⟨earlier, request, later, split, before, here, _, stop, _⟩ :=
    (buildIndexes_attempts_all indexedSpecimen rules survivable _).2 lacking
  have only : ∀ request ∈ indexSpecimen ++ [⟨none, some "idx_e"⟩], ¬ request.IsComplete →
      request = ⟨none, some "idx_e"⟩ := by decide
  obtain rfl := only request (by simp [split]) here
  exact ⟨survivable, complete, ⟨report, ended, built, failed⟩, kept "idx_d" (by rw [built]; decide), again, stop⟩

end GameLogs
