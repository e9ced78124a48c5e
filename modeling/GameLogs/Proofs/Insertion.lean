import GameLogs.Consolidation.Insertion
namespace GameLogs

/-! What an insertion does to a collection, and what becomes of the document.

A document is taken up where it has an identity that no rule refuses and that no stored document
has; everything else leaves the collection as it was.
-/

/-- The rules refuse insertions only with faults that a consolidation survives. -/
def FailureRules.Tolerable (rules : FailureRules) : Prop :=
  ∀ identity fault, rules.insertFault? identity = some fault → fault.kind.isForeign = false

/-- The fault that stops a copy at a document: one that the insertion of its identity meets, and that has
nothing to do with the store. -/
def Document.obstacle? (rules : FailureRules) (doc : Document) : Option Fault :=
  (doc.field? Field.identity).bind fun identity =>
    (rules.insertFault? identity).filter fun fault => fault.kind.isForeign

theorem Document.obstacle?_eq_some_iff {rules : FailureRules} {doc : Document} {fault : Fault} :
    doc.obstacle? rules = some fault ↔
      ∃ identity, doc.field? Field.identity = some identity ∧ rules.insertFault? identity = some fault ∧
        fault.kind.isForeign = true := by
  simp only [obstacle?, Option.bind_eq_some_iff, Option.filter_eq_some_iff]

theorem FailureRules.Tolerable.obstacle?_eq_none {rules : FailureRules} (tolerable : rules.Tolerable)
    (doc : Document) : doc.obstacle? rules = none := by
  refine Option.eq_none_iff_forall_ne_some.mpr fun fault met => ?_
  obtain ⟨identity, _, refused, isForeign⟩ := Document.obstacle?_eq_some_iff.mp met
  rw [tolerable identity fault refused] at isForeign
  cases isForeign

/-- The fault of looking up the identity of a document, if it has one. -/
def Document.hashFault? (hashing : Hashing) (doc : Document) : Option Fault :=
  (doc.field? Field.identity).bind hashing.fault?

/-- Insertions look identities up by a hash, and those that have one are refused only with faults that a
consolidation survives. -/
structure FailureRules.HashesBy (rules : FailureRules) (hashing : Hashing) : Prop where
  unhashable : ∀ identity fault, hashing.fault? identity = some fault → rules.insertFault? identity = some fault
  hashable : ∀ identity fault, hashing.fault? identity = none → rules.insertFault? identity = some fault →
    fault.kind.isForeign = false

theorem FailureRules.insertFault?_cons_hashing {hashing : Hashing} {rules : FailureRules} {identity : Value} :
    insertFault? (.hashing hashing :: rules) identity = (hashing.fault? identity).or (rules.insertFault? identity) := by
  simp only [insertFault?, List.findSome?_cons]
  cases hashing.fault? identity <;> simp

theorem FailureRules.insertFault?_cons_insert {failing identity : Value} {fault : Fault} {rules : FailureRules} :
    insertFault? (.insert failing fault :: rules) identity =
      if failing.equals identity then some fault else rules.insertFault? identity := by
  by_cases met : failing.equals identity <;> simp [insertFault?, met]

theorem FailureRules.Tolerable.hashesBy {hashing : Hashing} {rules : FailureRules} (tolerable : rules.Tolerable) :
    HashesBy (.hashing hashing :: rules) hashing where
  unhashable identity fault found := by rw [insertFault?_cons_hashing, found, Option.some_or]
  hashable identity fault free refused := by
    rw [insertFault?_cons_hashing, free, Option.none_or] at refused
    exact tolerable identity fault refused

/-- A store that looks identities up by a hash, and that fails to write some of them. -/
def FailureRules.failing (hashing : Hashing) (identities : List Value) (text : String) : FailureRules :=
  .hashing hashing :: identities.map fun failing => .insert failing ⟨.write, text⟩

theorem FailureRules.insertFault?_map_insert {identities : List Value} {identity : Value} {fault : Fault} :
    insertFault? (identities.map fun failing => .insert failing fault) identity =
      if identities.any (·.equals identity) then some fault else none := by
  induction identities with
  | nil => rfl
  | cons first rest ih =>
      rw [List.map_cons, insertFault?_cons_insert, ih, List.any_cons]
      cases first.equals identity <;> rfl

theorem FailureRules.hashesBy_failing {hashing : Hashing} {identities : List Value} {text : String} :
    (failing hashing identities text).HashesBy hashing := by
  refine Tolerable.hashesBy fun identity fault refused => ?_
  obtain ⟨_, same⟩ := Option.ite_none_right_eq_some.mp (insertFault?_map_insert.symm.trans refused)
  cases same
  rfl

/-- In a store that looks identities up by a hash, the obstacles are the documents whose identity has none. -/
theorem FailureRules.HashesBy.obstacle?_eq {hashing : Hashing} {rules : FailureRules} (hashes : rules.HashesBy hashing) :
    Document.obstacle? rules = Document.hashFault? hashing := by
  funext doc
  rw [Document.obstacle?, Document.hashFault?]
  cases doc.field? Field.identity with
  | none => rfl
  | some identity =>
      rw [Option.bind_some, Option.bind_some]
      cases found : hashing.fault? identity with
      | some fault =>
          rw [hashes.unhashable identity fault found, Option.filter_some, Hashing.kind_of_fault? found]
          rfl
      | none =>
          cases refused : rules.insertFault? identity with
          | none => rfl
          | some fault => simp [Option.filter_some, hashes.hashable identity fault found refused]

theorem FailureRules.HashesBy.isSome_obstacle?_iff {hashing : Hashing} {rules : FailureRules}
    (hashes : rules.HashesBy hashing) {doc : Document} : (doc.obstacle? rules).isSome = true ↔
      ∃ identity, doc.field? Field.identity = some identity ∧ (hashing.refusal? identity).isSome = true := by
  rw [hashes.obstacle?_eq, Document.hashFault?]
  cases doc.field? Field.identity <;> simp [Hashing.fault?]

/-- Equal identities are refused alike. -/
theorem FailureRules.insertFault?_of_equals {rules : FailureRules} {a b : Value}
    (equal : a.equals b = true) : rules.insertFault? a = rules.insertFault? b := by
  induction rules with
  | nil => rfl
  | cons rule rest ih =>
      simp only [insertFault?, List.findSome?_cons]
      simp only [insertFault?] at ih
      cases rule with
      | insert failing fault =>
          have alike : failing.equals a = failing.equals b := by
            rw [Bool.eq_iff_iff]
            exact ⟨fun left => Value.equals_trans left equal,
              fun right => Value.equals_trans right (Value.equals_symm equal)⟩
          simp only [alike, ih]
      | hashing hashing =>
          have alike : hashing.fault? a = hashing.fault? b := by
            rw [Hashing.fault?, hashing.respects equal, Hashing.fault?]
          simp only [alike, ih]
      | index | update | count | find | distinct | cursor => simpa using ih

namespace Collection

variable {collection : Collection} {rules : FailureRules} {doc : Document} {identity : Value}

def accepts (collection : Collection) (rules : FailureRules) (doc : Document) : Bool :=
  doc.has Field.identity && (rules.insertFault? (doc.field Field.identity)).isNone &&
    !collection.holds (doc.field Field.identity)

def offer (collection : Collection) (rules : FailureRules) (doc : Document) : Collection :=
  ((Insertion.perform rules doc).run collection).state

theorem offer_of_accepts (accepted : collection.accepts rules doc = true) :
    collection.offer rules doc = collection.append doc := by
  simp only [accepts, Bool.and_eq_true, Bool.not_eq_true', Option.isNone_iff_eq_none] at accepted
  obtain ⟨⟨named, allowed⟩, free⟩ := accepted
  rw [offer, Insertion.run_perform_of_ok named (insert_eq_ok_iff.mpr ⟨allowed, free, rfl⟩)]

theorem offer_of_not_accepts (refused : collection.accepts rules doc = false) :
    collection.offer rules doc = collection := by
  cases named : doc.has Field.identity with
  | false => rw [offer, Insertion.run_perform_of_anonymous named]
  | true =>
      cases answer : collection.insert rules doc with
      | error fault => rw [offer, Insertion.run_perform_of_error named answer]
      | ok grown =>
          obtain ⟨allowed, free, _⟩ := insert_eq_ok_iff.mp answer
          simp [accepts, named, allowed, free] at refused

theorem offer_eq : collection.offer rules doc =
    if collection.accepts rules doc then collection.append doc else collection := by
  split
  case isTrue accepted => exact offer_of_accepts accepted
  case isFalse refused => exact offer_of_not_accepts (Bool.eq_false_iff.mpr refused)

theorem holds_offer (held : collection.holds identity = true) :
    (collection.offer rules doc).holds identity = true := by
  rw [offer_eq]
  split
  · rw [holds_append, held, Bool.true_or]
  · exact held

theorem holds_of_equals {other : Value} (equal : identity.equals other = true)
    (held : collection.holds identity = true) : collection.holds other = true := by
  obtain ⟨doc, member, same⟩ := List.any_eq_true.mp held
  exact List.any_eq_true.mpr ⟨doc, member, Value.equals_trans same equal⟩

/-- Every document that has an identity is there after an attempt to insert it, unless a rule refused
it.  An identity that does not equal itself would not be found. -/
theorem holds_offer_self (named : doc.has Field.identity = true)
    (allowed : rules.insertFault? (doc.field Field.identity) = none)
    (proper : (doc.field Field.identity).equals (doc.field Field.identity) = true) :
    (collection.offer rules doc).holds (doc.field Field.identity) = true := by
  cases held : collection.holds (doc.field Field.identity) with
  | true => exact holds_offer held
  | false =>
      have accepted : collection.accepts rules doc = true := by
        simp [accepts, named, allowed, held]
      rw [offer_of_accepts accepted, holds_append, proper, Bool.or_true]

/-- A collection that has taken up documents, each with an identity that it did not hold. -/
structure GrownBy (initial : Collection) (added : List Document) (collection : Collection) : Prop where
  documents : collection.documents = initial.documents ++ added
  distinct : added.Pairwise fun first second =>
    (first.field Field.identity).equals (second.field Field.identity) = false
  unknown : ∀ doc ∈ added, initial.holds (doc.field Field.identity) = false

theorem grownBy_refl : collection.GrownBy [] collection where
  documents := (List.append_nil _).symm
  distinct := List.Pairwise.nil
  unknown := by simp

theorem GrownBy.offer {initial : Collection} {added : List Document} (grown : initial.GrownBy added collection) :
    initial.GrownBy (added ++ if collection.accepts rules doc then [doc] else [])
      (collection.offer rules doc) := by
  cases accepted : collection.accepts rules doc with
  | false =>
      rw [offer_of_not_accepts accepted]
      simpa using grown
  | true =>
      have free : collection.holds (doc.field Field.identity) = false := by
        simp only [accepts, Bool.and_eq_true, Bool.not_eq_true'] at accepted
        exact accepted.2
      have different : ∀ other ∈ collection.documents,
          (other.field Field.identity).equals (doc.field Field.identity) = false := by
        intro other member
        exact Bool.eq_false_iff.mpr (List.any_eq_false.mp free other member)
      rw [grown.documents] at different
      obtain ⟨old, new⟩ := List.forall_mem_append.mp different
      rw [offer_of_accepts accepted, if_pos rfl]
      refine ⟨?_, List.pairwise_append.mpr ⟨grown.distinct, List.pairwise_singleton _ _, ?_⟩, ?_⟩
      · rw [append, grown.documents, List.append_assoc]
      · intro other member last same
        obtain rfl := List.mem_singleton.mp same
        exact new other member
      · intro other member
        rcases List.mem_append.mp member with earlier | last
        · exact grown.unknown other earlier
        · obtain rfl := List.mem_singleton.mp last
          exact List.any_eq_false.mpr fun other known => by simp [old other known]

end Collection

namespace Insertion

variable {collection later : Collection} {rules : FailureRules} {doc : Document}

def judge (rules : FailureRules) (collection : Collection) (doc : Document) : Insertion :=
  if doc.has Field.identity then
    match rules.insertFault? (doc.field Field.identity) with
    | some fault => if fault.kind.isDuplicate then .alreadyExists else .failed fault.message
    | none => if collection.holds (doc.field Field.identity) then .alreadyExists else .inserted
  else .failed missingIdentity

private theorem ofFault_of_foreign {fault : Fault} (isForeign : fault.kind.isForeign = true) :
    ofFault fault = .error fault := by
  cases kind : fault.kind <;>
    simp_all [ofFault, FaultKind.isDuplicate, FaultKind.isStore, FaultKind.isEncoding, FaultKind.isForeign]

theorem run_perform_of_obstacle {fault : Fault} (met : doc.obstacle? rules = some fault) :
    (perform rules doc).run collection = ⟨.error (.store fault), collection, []⟩ := by
  obtain ⟨identity, stored, refused, isForeign⟩ := Document.obstacle?_eq_some_iff.mp met
  have named : doc.has Field.identity = true := by rw [Document.has, stored, Option.isSome_some]
  have answer : collection.insert rules doc = .error fault := by
    simp [Collection.insert, Document.field, stored, refused]
  rw [run_perform_of_error named answer, ofFault_of_foreign isForeign]
  rfl

private theorem ofFault_of_tolerated {fault : Fault} (tolerated : fault.kind.isForeign = false) :
    ofFault fault =
      .ok (if fault.kind.isDuplicate then .alreadyExists else .failed fault.message) := by
  cases kind : fault.kind <;>
    simp_all [ofFault, FaultKind.isDuplicate, FaultKind.isStore, FaultKind.isEncoding, FaultKind.isForeign]

theorem run_perform (clear : doc.obstacle? rules = none) :
    (perform rules doc).run collection =
      ⟨.ok (judge rules collection doc), collection.offer rules doc, []⟩ := by
  suffices result : ((perform rules doc).run collection).result = .ok (judge rules collection doc) ∧
      ((perform rules doc).run collection).notices = [] by
    obtain ⟨judged, silent⟩ := result
    rw [Collection.offer, ← judged, ← silent]
  cases named : doc.has Field.identity with
  | false => simp [run_perform_of_anonymous named, judge, named]
  | true =>
      cases refusal : rules.insertFault? (doc.field Field.identity) with
      | some fault =>
          have answer : collection.insert rules doc = .error fault := by
            simp [Collection.insert, refusal]
          have tolerated : fault.kind.isForeign = false := by
            refine Bool.eq_false_iff.mpr fun isForeign => ?_
            have met := Document.obstacle?_eq_some_iff.mpr
              ⟨_, Document.field?_of_has named, refusal, isForeign⟩
            rw [clear] at met
            cases met
          rw [run_perform_of_error named answer, ofFault_of_tolerated tolerated]
          simp only [judge, named, refusal, if_true]
          exact ⟨rfl, trivial⟩
      | none =>
          cases held : collection.holds (doc.field Field.identity) with
          | true =>
              have answer : collection.insert rules doc = .error ⟨.duplicateKey, "duplicate identity"⟩ := by
                simp [Collection.insert, refusal, held]
              rw [run_perform_of_error named answer, ofFault_of_tolerated rfl]
              simp only [judge, named, refusal, held, if_true]
              exact ⟨rfl, trivial⟩
          | false =>
              rw [run_perform_of_ok named (Collection.insert_eq_ok_iff.mpr ⟨refusal, held, rfl⟩)]
              simp [judge, named, refusal, held]

theorem judge_eq_inserted_iff : judge rules collection doc = .inserted ↔ collection.accepts rules doc = true := by
  unfold judge Collection.accepts
  cases named : doc.has Field.identity with
  | false => simp
  | true =>
      cases refusal : rules.insertFault? (doc.field Field.identity) with
      | some fault => cases duplicate : fault.kind.isDuplicate <;> simp [duplicate]
      | none => cases held : collection.holds (doc.field Field.identity) <;> simp

/-- What becomes of a document when it is offered again: one that was inserted is there already. -/
def again : Insertion → Insertion
  | .inserted => .alreadyExists
  | .alreadyExists => .alreadyExists
  | .failed detail => .failed detail

theorem judge_again
    (proper : doc.has Field.identity = true →
      (doc.field Field.identity).equals (doc.field Field.identity) = true)
    (kept : ∀ identity, (collection.offer rules doc).holds identity = true → later.holds identity = true) :
    judge rules later doc = (judge rules collection doc).again := by
  unfold judge
  cases named : doc.has Field.identity with
  | false => rfl
  | true =>
      cases refusal : rules.insertFault? (doc.field Field.identity) with
      | some fault => cases duplicate : fault.kind.isDuplicate <;> simp [duplicate, again]
      | none =>
          have held := kept _ (Collection.holds_offer_self named refusal (proper named))
          cases before : collection.holds (doc.field Field.identity) <;> simp [held, again]

end Insertion
end GameLogs
