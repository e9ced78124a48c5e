import GameLogs.Indexes
import GameLogs.Proofs.Entries
namespace GameLogs

/-! Runs of index building, when every request is complete and every fault is one of the store.

Each request that is not refused puts its index under its name; the documents are left alone.
-/

namespace IndexRequest

/-- The index that a request puts under its name, unless it is incomplete or refused. -/
def entry? (rules : FailureRules) (request : IndexRequest) : Option (String × Index) :=
  match request.complete with
  | .ok (name, keys) => if rules.indexFault? name = none then some (name, ⟨keys, true⟩) else none
  | .error _ => none

def notices (rules : FailureRules) (request : IndexRequest) : List Notice :=
  match request.complete with
  | .ok (name, _) =>
      match rules.indexFault? name with
      | none => [.indexBuilt name]
      | some fault => [.indexFailed name fault.message]
  | .error _ => []

theorem name?_of_complete {request : IndexRequest} {name : String} {keys : List (String × Int)}
    (whole : request.complete = .ok (name, keys)) : request.name? = some name := by
  obtain ⟨keys?, name?⟩ := request
  cases keys? <;> cases name? <;> simp_all [complete]

theorem complete_of_mem_configured {request : IndexRequest} (member : request ∈ configured) :
    ∃ name keys, request.complete = .ok (name, keys) := by
  obtain ⟨index, _, rfl⟩ := List.mem_map.mp member
  exact ⟨index.name, index.keys, rfl⟩

end IndexRequest

def IndexReport.ofRequests (rules : FailureRules) (requests : List IndexRequest) : IndexReport where
  built := (requests.filterMap IndexRequest.name?).filter fun name => (rules.indexFault? name).isNone
  failed := (requests.filterMap IndexRequest.name?).filter fun name => (rules.indexFault? name).isSome

namespace Collection

variable {collection : Collection} {rules : FailureRules} {requests : List IndexRequest}

def indexed (collection : Collection) (rules : FailureRules) (requests : List IndexRequest) : Collection :=
  let entries := requests.filterMap (IndexRequest.entry? rules)
  { collection with
    indexes := collection.indexes.putAll entries
    present := collection.present || !entries.isEmpty }

@[simp] theorem documents_indexed : (collection.indexed rules requests).documents = collection.documents := rfl

/-- Indexes that have been built are not changed by building them again. -/
theorem indexed_again :
    (collection.indexed rules requests).indexed rules requests = collection.indexed rules requests := by
  simp only [indexed, Entries.putAll_again, Bool.or_assoc, Bool.or_self]

private theorem indexed_cons {request : IndexRequest} {name : String} {index : Index}
    (built : request.entry? rules = some (name, index)) :
    collection.indexed rules (request :: requests) =
      { collection with indexes := collection.indexes.put name index, present := true }.indexed rules
        requests := by
  simp [indexed, built, Entries.putAll]

private theorem indexed_cons_of_none {request : IndexRequest} (refused : request.entry? rules = none) :
    collection.indexed rules (request :: requests) = collection.indexed rules requests := by
  simp [indexed, refused]

end Collection

variable {collection : Collection} {rules : FailureRules} {requests : List IndexRequest} {report : IndexReport}
  {request : IndexRequest} {name : String} {keys : List (String × Int)} {fault : Fault}

theorem run_buildIndex_of_free (whole : request.complete = .ok (name, keys)) (free : rules.indexFault? name = none) :
    (buildIndex rules report request).run collection =
      ⟨.ok { report with built := report.built ++ [name] },
        { collection with indexes := collection.indexes.put name ⟨keys, true⟩, present := true },
        [.indexBuilt name]⟩ := by
  simp [buildIndex, whole, Collection.build, free, Outcome.andThen]

/-- A refusal by the store is reported; any other fault stops the run. -/
theorem run_buildIndex_of_refused (whole : request.complete = .ok (name, keys))
    (refused : rules.indexFault? name = some fault) :
    (buildIndex rules report request).run collection =
      if fault.kind.isStore then
        ⟨.ok { report with failed := report.failed ++ [name] }, collection, [.indexFailed name fault.message]⟩
      else ⟨.error (.store fault), collection, []⟩ := by
  cases survived : fault.kind.isStore <;>
    simp [buildIndex, whole, Collection.build, refused, survived, Outcome.andThen]

theorem run_buildIndex_of_incomplete {error : Error} (incomplete : request.complete = .error error) :
    (buildIndex rules report request).run collection = ⟨.error error, collection, []⟩ := by
  simp [buildIndex, incomplete, Outcome.andThen]

/-- Building an index changes no document, under any rules. -/
theorem documents_buildIndex :
    (buildIndex rules report request).Respects fun before after => after.documents = before.documents := by
  intro collection
  cases whole : request.complete with
  | error error => rw [run_buildIndex_of_incomplete whole]
  | ok entry =>
      cases refusal : rules.indexFault? entry.1 with
      | none => rw [run_buildIndex_of_free whole refusal]
      | some fault =>
          rw [run_buildIndex_of_refused whole refusal]
          split <;> rfl

theorem documents_buildIndexes :
    (buildIndexes rules requests).Respects fun before after => after.documents = before.documents := by
  suffices folded : ∀ report, (requests.foldlM (buildIndex rules) report).Respects
      fun before after => after.documents = before.documents from folded .empty
  induction requests with
  | nil => exact fun report => (Job.readsOnly_pure report).respects fun _ => rfl
  | cons request rest ih =>
      intro report
      rw [List.foldlM_cons]
      exact Job.Respects.bind (fun _ _ _ earlier later => later.trans earlier) documents_buildIndex ih

private theorem run_foldlM_buildIndex
    (complete : ∀ request ∈ requests, ∃ name keys, request.complete = .ok (name, keys))
    (survivable : ∀ name fault, rules.indexFault? name = some fault → fault.kind.isStore = true) :
    (requests.foldlM (buildIndex rules) report).run collection =
      ⟨.ok ⟨report.built ++ (IndexReport.ofRequests rules requests).built,
          report.failed ++ (IndexReport.ofRequests rules requests).failed⟩,
        collection.indexed rules requests, requests.flatMap (IndexRequest.notices rules)⟩ := by
  induction requests generalizing report collection with
  | nil => simp [IndexReport.ofRequests, Collection.indexed, Entries.putAll]
  | cons request rest ih =>
      obtain ⟨first, later⟩ := List.forall_mem_cons.mp complete
      obtain ⟨name, keys, whole⟩ := first
      have named := IndexRequest.name?_of_complete whole
      rw [List.foldlM_cons, Job.run_bind]
      cases refusal : rules.indexFault? name with
      | none =>
          have entered : request.entry? rules = some (name, ⟨keys, true⟩) := by
            simp [IndexRequest.entry?, whole, refusal]
          rw [run_buildIndex_of_free whole refusal]
          simp only [Outcome.andThen, ih later, Collection.indexed_cons entered]
          simp [IndexReport.ofRequests, named, refusal, IndexRequest.notices, whole]
      | some fault =>
          have omitted : request.entry? rules = none := by
            simp [IndexRequest.entry?, whole, refusal]
          rw [run_buildIndex_of_refused whole refusal, if_pos (survivable name fault refusal)]
          simp only [Outcome.andThen, ih later, Collection.indexed_cons_of_none omitted]
          simp [IndexReport.ofRequests, named, refusal, IndexRequest.notices, whole]

theorem run_buildIndexes
    (complete : ∀ request ∈ requests, ∃ name keys, request.complete = .ok (name, keys))
    (survivable : ∀ name fault, rules.indexFault? name = some fault → fault.kind.isStore = true) :
    (buildIndexes rules requests).run collection =
      ⟨.ok (IndexReport.ofRequests rules requests), collection.indexed rules requests,
        requests.flatMap (IndexRequest.notices rules)⟩ :=
  run_foldlM_buildIndex complete survivable

end GameLogs
