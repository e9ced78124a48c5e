import GameLogs.Proofs.Identities
namespace GameLogs

/-! What an insertion answers, and what it leaves.

The answer depends on four things, which are asked in this order: whether the document has an identity, whether
this has a hash, whether the store fails to write it, and whether the collection holds it.  Only a document
that is inserted changes the collection.
-/

namespace FailureRules

variable {hashing : Hashing} {identities : List Value} {text : String} {identity : Value}

theorem insertFault?_failing (hashed : hashing.refusal? identity = none) :
    (failing hashing identities text).insertFault? identity =
      if identities.any (·.equals identity) then some ⟨.write, text⟩ else none := by
  rw [failing, insertFault?_cons_hashing, Hashing.fault?, hashed, Option.map_none, Option.none_or,
    insertFault?_map_insert]

theorem insertFault?_failing_of_unhashable {detail : String} (unhashable : hashing.refusal? identity = some detail) :
    (failing hashing identities text).insertFault? identity = some ⟨.badType, detail⟩ := by
  rw [failing, insertFault?_cons_hashing, Hashing.fault?, unhashable, Option.map_some, Option.some_or]

end FailureRules

namespace Collection

variable {collection : Collection} {identity : Value}

theorem holds_iff_stored : collection.holds identity = true ↔
    ∃ stored ∈ collection.documents, (stored.field Field.identity).equals identity = true :=
  List.any_eq_true

theorem not_holds_iff_stored : collection.holds identity = false ↔
    ∀ stored ∈ collection.documents, (stored.field Field.identity).equals identity = false := by
  simp [holds]

end Collection

namespace Insertion

variable {collection later : Collection} {rules : FailureRules} {doc : Document} {identity : Value}
  {fault : Fault} {hashing : Hashing} {failing : List Value} {text detail : String}

theorem result_perform_of_allowed (named : doc.field? Field.identity = some identity)
    (allowed : rules.insertFault? identity = none) :
    ((perform rules doc).run collection).result =
      .ok (if collection.holds identity then .alreadyExists else .inserted) := by
  have clear : doc.obstacle? rules = none := by simp [Document.obstacle?, named, allowed]
  rw [run_perform clear]
  simp [judge, Document.has, Document.field, named, allowed]

theorem result_perform_of_fault (named : doc.field? Field.identity = some identity)
    (struck : rules.insertFault? identity = some fault) :
    ((perform rules doc).run collection).result =
      if fault.kind.isForeign then .error (.store fault)
      else .ok (if fault.kind.isDuplicate then .alreadyExists else .failed fault.message) := by
  cases origin : fault.kind.isForeign with
  | true =>
      have met := Document.obstacle?_eq_some_iff.mpr ⟨identity, named, struck, origin⟩
      exact congrArg Outcome.result (run_perform_of_obstacle met)
  | false =>
      have clear : doc.obstacle? rules = none := by simp [Document.obstacle?, named, struck, origin]
      rw [run_perform clear]
      simp [judge, Document.has, Document.field, named, struck]

theorem result_perform_of_unhashable (named : doc.field? Field.identity = some identity)
    (unhashable : hashing.refusal? identity = some detail) :
    ((perform (.failing hashing failing text) doc).run collection).result = .error (.store ⟨.badType, detail⟩) :=
  result_perform_of_fault named (FailureRules.insertFault?_failing_of_unhashable unhashable)

theorem result_perform_of_hashable (named : doc.field? Field.identity = some identity)
    (hashed : hashing.refusal? identity = none) :
    ((perform (.failing hashing failing text) doc).run collection).result =
      .ok (if failing.any (·.equals identity) then .failed text
        else if collection.holds identity then .alreadyExists else .inserted) := by
  have answer := @FailureRules.insertFault?_failing hashing failing text identity hashed
  cases fails : failing.any (·.equals identity) with
  | true =>
      rw [fails] at answer
      exact result_perform_of_fault named answer
  | false =>
      rw [fails] at answer
      exact result_perform_of_allowed named answer

theorem result_perform_eq_missing_iff (worded : text ≠ missingIdentity) :
    ((perform (.failing hashing failing text) doc).run collection).result = .ok (.failed missingIdentity) ↔
      doc.has Field.identity = false := by
  constructor
  · intro failed
    refine Bool.eq_false_iff.mpr fun present => ?_
    have named := Document.field?_of_has present
    cases refused : hashing.refusal? (doc.field Field.identity) with
    | some detail => cases failed.symm.trans (result_perform_of_unhashable named refused)
    | none =>
        have answer := failed.symm.trans (result_perform_of_hashable named refused)
        split at answer
        · exact worded (Insertion.failed.inj (Except.ok.inj answer)).symm
        · split at answer <;> cases answer
  · intro anonymous
    exact congrArg Outcome.result (run_perform_of_anonymous anonymous)

theorem result_perform_eq_failed_iff (named : doc.field? Field.identity = some identity)
    (hashed : hashing.refusal? identity = none) :
    ((perform (.failing hashing failing text) doc).run collection).result = .ok (.failed detail) ↔
      detail = text ∧ ∃ other ∈ failing, other.equals identity = true := by
  rw [result_perform_of_hashable named hashed, ← List.any_eq_true]
  cases failing.any (·.equals identity) with
  | true => simp [eq_comm]
  | false => cases collection.holds identity <;> simp

/-- An identity that the store does not fail to write is answered for by what the collection holds. -/
theorem result_perform_of_free (named : doc.field? Field.identity = some identity)
    (hashed : hashing.refusal? identity = none) (free : ∀ other ∈ failing, other.equals identity = false) :
    ((perform (.failing hashing failing text) doc).run collection).result =
      .ok (if collection.holds identity then .alreadyExists else .inserted) := by
  have unfailing : failing.any (·.equals identity) = false := by simpa using free
  rw [result_perform_of_hashable named hashed, unfailing, if_neg Bool.false_ne_true]

theorem result_perform_eq_inserted_iff :
    ((perform rules doc).run collection).result = .ok .inserted ↔ collection.accepts rules doc = true := by
  cases met : doc.obstacle? rules with
  | none => rw [run_perform met, ← judge_eq_inserted_iff, Except.ok.injEq]
  | some fault =>
      obtain ⟨identity, named, struck, _⟩ := Document.obstacle?_eq_some_iff.mp met
      rw [run_perform_of_obstacle met]
      simp [Collection.accepts, Document.field, named, struck]

/-- A document that was inserted is there already for every later insertion of it, as long as the collection
keeps what it has. -/
theorem run_perform_again (accepted : collection.accepts rules doc = true)
    (proper : (doc.field Field.identity).equals (doc.field Field.identity) = true)
    (kept : (collection.offer rules doc).KeptBy later) :
    (perform rules doc).run later = ⟨.ok .alreadyExists, later, []⟩ := by
  have entered := accepted
  simp only [Collection.accepts, Bool.and_eq_true, Bool.not_eq_true', Option.isNone_iff_eq_none] at entered
  obtain ⟨⟨named, allowed⟩, _⟩ := entered
  have clear : doc.obstacle? rules = none := by
    simp [Document.obstacle?, Document.field?_of_has named, allowed]
  have judged : judge rules later doc = .alreadyExists := by
    rw [judge_again (fun _ => proper) fun _ => kept.holds, judge_eq_inserted_iff.mpr accepted]
    rfl
  have refused : later.accepts rules doc = false := by
    rw [Bool.eq_false_iff, ne_eq, ← judge_eq_inserted_iff, judged]
    exact fun same => Insertion.noConfusion same
  rw [run_perform clear, judged, Collection.offer_of_not_accepts refused]

/-- An insertion fails for want of an identity if and only if the document has none.  An identity without a hash
stops it.  With one that has a hash it fails with the text of the store if and only if the store fails to write that
identity; otherwise the document is there already if a stored document has an equal identity, one without an
identity counting as null, and is inserted if none has.  Inserting appends the document and makes the collection
exist, and the document is there already from then on; any other end leaves the collection as it was. -/
theorem perform_decides (hashing : Hashing) (failing : List Value) (text : String)
    (worded : text ≠ missingIdentity) (collection : Collection) (doc : Document) :
    let outcome := (perform (.failing hashing failing text) doc).run collection
    (outcome.result = .ok (.failed missingIdentity) ↔ doc.has Field.identity = false) ∧
    (∀ identity, doc.field? Field.identity = some identity →
      (∀ detail, hashing.refusal? identity = some detail → outcome.result = .error (.store ⟨.badType, detail⟩)) ∧
      (hashing.refusal? identity = none →
        (∀ detail, outcome.result = .ok (.failed detail) ↔
          detail = text ∧ ∃ other ∈ failing, other.equals identity = true) ∧
        ((∀ other ∈ failing, other.equals identity = false) →
          (outcome.result = .ok .alreadyExists ↔
            ∃ stored ∈ collection.documents, (stored.field Field.identity).equals identity = true) ∧
          (outcome.result = .ok .inserted ↔
            ∀ stored ∈ collection.documents, (stored.field Field.identity).equals identity = false)))) ∧
    (outcome.result = .ok .inserted →
      outcome.state.documents = collection.documents ++ [doc] ∧
      outcome.state.indexes = collection.indexes ∧ outcome.state.present = true ∧
      ((doc.field Field.identity).equals (doc.field Field.identity) = true →
        ∀ later, outcome.state.KeptBy later →
          (perform (.failing hashing failing text) doc).run later = ⟨.ok .alreadyExists, later, []⟩)) ∧
    (outcome.result ≠ .ok .inserted → outcome.state = collection) := by
  intro outcome
  refine ⟨result_perform_eq_missing_iff worded, fun identity named => ⟨?_, fun hashed => ⟨?_, fun free => ?_⟩⟩,
    fun inserted => ?_, fun other => ?_⟩
  · exact fun detail unhashable => result_perform_of_unhashable named unhashable
  · exact fun detail => result_perform_eq_failed_iff named hashed
  · have answered := @result_perform_of_free collection doc identity hashing failing text named hashed free
    rw [show outcome.result = _ from answered, ← Collection.holds_iff_stored, ← Collection.not_holds_iff_stored]
    cases collection.holds identity <;> simp
  · have accepted := result_perform_eq_inserted_iff.mp inserted
    have grown : outcome.state = collection.append doc := Collection.offer_of_accepts accepted
    refine ⟨by rw [grown]; rfl, by rw [grown]; rfl, by rw [grown]; rfl, fun proper later kept => ?_⟩
    exact run_perform_again accepted proper kept
  · have refused := mt result_perform_eq_inserted_iff.mpr other
    exact Collection.offer_of_not_accepts (Bool.eq_false_iff.mpr refused)

/-- The first document that is stored has no identity. -/
def sparseSpecimen : Collection where
  documents := [[("score", .int 3)], [("_id", .int 1)]]
  indexes := [("idx", ⟨[("game", 1)], true⟩)]
  present := true

/-- A store that fails to write two identities. -/
def strictRules : FailureRules := .failing .standard [.int 4, .string "x"] "Document failed validation"

theorem perform_decides_specimen :
    "Document failed validation" ≠ missingIdentity ∧
      ((perform strictRules [("score", .int 2)]).run sparseSpecimen).result = .ok (.failed missingIdentity) ∧
      ((perform strictRules [("_id", .int 4)]).run sparseSpecimen).result =
        .ok (.failed "Document failed validation") ∧
      ((perform strictRules [("_id", .array [.int 1])]).run sparseSpecimen).result =
        .error (.store ⟨.badType, "unhashable type: 'list'"⟩) ∧
      ((perform strictRules [("_id", .array [.int 1])]).run sparseSpecimen).state = sparseSpecimen ∧
      ((perform strictRules [("_id", .document [])]).run sparseSpecimen).result =
        .error (.store ⟨.badType, "unhashable type: 'dict'"⟩) ∧
      ((perform strictRules [("_id", .null)]).run sparseSpecimen).result = .ok .alreadyExists ∧
      ((perform strictRules [("_id", .bool true)]).run sparseSpecimen).result = .ok .alreadyExists ∧
      ((perform strictRules [("_id", .string "a")]).run sparseSpecimen).result = .ok .inserted ∧
      ((perform strictRules [("_id", .string "a")]).run sparseSpecimen).state.documents =
        sparseSpecimen.documents ++ [[("_id", .string "a")]] ∧
      (perform strictRules [("_id", .string "a")]).run
          ((perform strictRules [("_id", .string "a")]).run sparseSpecimen).state =
        ⟨.ok .alreadyExists, ((perform strictRules [("_id", .string "a")]).run sparseSpecimen).state, []⟩ := by
  have worded : "Document failed validation" ≠ missingIdentity := by decide
  have decides := perform_decides .standard [.int 4, .string "x"] "Document failed validation" worded sparseSpecimen
  obtain ⟨anonymous, _⟩ := decides [("score", .int 2)]
  obtain ⟨_, four, _⟩ := decides [("_id", .int 4)]
  obtain ⟨failed, _⟩ := (four _ rfl).2 rfl
  obtain ⟨_, array, _, unchanged⟩ := decides [("_id", .array [.int 1])]
  have stopped := (array _ rfl).1 _ rfl
  obtain ⟨_, document, _⟩ := decides [("_id", .document [])]
  obtain ⟨_, null, _⟩ := decides [("_id", .null)]
  obtain ⟨missing, _⟩ := ((null _ rfl).2 rfl).2 (by decide)
  obtain ⟨_, one, _⟩ := decides [("_id", .bool true)]
  obtain ⟨equal, _⟩ := ((one _ rfl).2 rfl).2 (by decide)
  obtain ⟨_, another, added, _⟩ := decides [("_id", .string "a")]
  obtain ⟨_, free⟩ := ((another _ rfl).2 rfl).2 (by decide)
  have inserted := free.mpr (by decide)
  obtain ⟨appended, _, _, again⟩ := added inserted
  refine ⟨worded, anonymous.mpr rfl, (failed _).mpr ⟨rfl, .int 4, List.mem_cons_self, by decide⟩, stopped,
    unchanged ?_, (document _ rfl).1 _ rfl, missing.mpr ⟨_, List.mem_cons_self, rfl⟩,
    equal.mpr ⟨_, List.mem_cons_of_mem _ List.mem_cons_self, by decide⟩, inserted, appended,
    again (by decide) _ Collection.keptBy_refl⟩
  exact fun inserted => nomatch stopped.symm.trans inserted

end Insertion
end GameLogs
