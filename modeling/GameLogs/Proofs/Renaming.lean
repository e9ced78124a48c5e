import GameLogs.Proofs.Delivery
import GameLogs.Renaming
namespace GameLogs

/-! Runs of renaming a field, when nothing fails.

Every document is renamed.  A renaming that spares the name of the identity leaves the identities as
they are, so that a target goes on holding what it held.
-/

namespace Document

variable {doc : Document} {former current key : String} {value : Value}

theorem has_eq_false_iff : doc.has key = false ↔ doc.field? key = none := by
  rw [has, Option.isSome_eq_false_iff, Option.isNone_iff_eq_none]

theorem rename_of_stored (stored : doc.field? former = some value) :
    doc.rename former current = (doc.without former).put current value := by
  rw [rename, stored]

theorem rename_of_missing (missing : doc.has former = false) : doc.rename former current = doc := by
  rw [rename, has_eq_false_iff.mp missing]

theorem field?_rename_of_ne (notFormer : key ≠ former) (notCurrent : key ≠ current) :
    (doc.rename former current).field? key = doc.field? key := by
  cases found : doc.field? former with
  | none => rw [rename_of_missing (has_eq_false_iff.mpr found)]
  | some value =>
      rw [rename_of_stored found, field?_put_of_ne notCurrent]
      exact Entries.item?_remove_of_ne notFormer

theorem has_rename_former (different : former ≠ current) :
    (doc.rename former current).has former = false := by
  cases found : doc.field? former with
  | none =>
      have missing := has_eq_false_iff.mpr found
      rwa [rename_of_missing missing]
  | some value =>
      rw [rename_of_stored found, has_eq_false_iff, field?_put_of_ne different]
      exact Entries.item?_remove_self

end Document

namespace Renaming

/-- The renaming neither takes a field away nor sets it. -/
def Spares (fields : Renaming) (key : String) : Prop := key ≠ fields.former ∧ key ≠ fields.current

instance {fields : Renaming} {key : String} : Decidable (fields.Spares key) :=
  inferInstanceAs (Decidable (key ≠ fields.former ∧ key ≠ fields.current))

end Renaming

namespace Collection

variable {collection : Collection} {fields : Renaming} {rules : FailureRules} {key : String}
  {identity : Value} {delivery : Delivery} {deliveries : List Delivery}

def renamed (collection : Collection) (fields : Renaming) : Collection :=
  { collection with documents := collection.documents.map (·.rename fields.former fields.current) }

theorem documents_renamed : (collection.renamed fields).documents =
    collection.documents.map (·.rename fields.former fields.current) := rfl

theorem renamed_of_missing (missing : ∀ doc ∈ collection.documents, doc.has fields.former = false) :
    collection.renamed fields = collection := by
  have unchanged : collection.documents.map (·.rename fields.former fields.current) =
      collection.documents := by
    rw [List.map_congr_left fun doc member => Document.rename_of_missing (missing doc member),
      List.map_id']
  rw [renamed, unchanged]

theorem renamed_renamed (different : fields.former ≠ fields.current) :
    (collection.renamed fields).renamed fields = collection.renamed fields := by
  apply renamed_of_missing
  intro doc member
  obtain ⟨former, _, rfl⟩ := List.mem_map.mp member
  exact Document.has_rename_former different

theorem map_field?_renamed (spared : fields.Spares key) :
    (collection.renamed fields).documents.map (·.field? key) = collection.documents.map (·.field? key) := by
  rw [renamed, List.map_map]
  exact List.map_congr_left fun doc _ => Document.field?_rename_of_ne spared.1 spared.2

theorem identities_renamed (spared : fields.Spares Field.identity) :
    (collection.renamed fields).identities = collection.identities := by
  have fieldwise := congrArg (List.map fun found : Option Value => found.getD .null)
    (@map_field?_renamed collection fields Field.identity spared)
  rwa [List.map_map, List.map_map] at fieldwise

theorem holds_eq_any : collection.holds identity = collection.identities.any (·.equals identity) := by
  rw [holds, identities, List.any_map]
  rfl

theorem holds_renamed (spared : fields.Spares Field.identity) :
    (collection.renamed fields).holds identity = collection.holds identity := by
  rw [holds_eq_any, identities_renamed spared, holds_eq_any]

/-- Documents come to the same whether they are renamed before the deliveries are received or only
afterwards. -/
theorem documents_receive_renamed (spared : fields.Spares Field.identity)
    (different : fields.former ≠ fields.current) :
    (((collection.renamed fields).receive rules deliveries).renamed fields).documents =
      ((collection.receive rules deliveries).renamed fields).documents := by
  have again := congrArg documents (@renamed_renamed collection fields different)
  rw [documents_renamed, documents_renamed, documents_receive, documents_receive, List.map_append,
    List.map_append, identities_renamed spared, ← documents_renamed, again, documents_renamed]

end Collection

@[simp] theorem Filter.accepts_having {field : String} {doc : Document} :
    (Filter.having field).accepts doc = doc.has field := by
  rw [having, accepts]
  cases doc.has field <;> rfl

namespace Renaming

variable {fields : Renaming} {rules : FailureRules} {collection : Collection} {field : String}

/-- What is reported of a collection in which nothing fails. -/
def report (fields : Renaming) (collection : Collection) : RenamingReport where
  pending := collection.documents.countP (·.has fields.former)
  changed := collection.documents.countP (·.has fields.former)
  done := (collection.renamed fields).documents.countP (·.has fields.current)
  failure? := none

def notices (fields : Renaming) (report : RenamingReport) : List Notice :=
  [.fieldCount fields.former report.pending,
    if report.pending = 0 then .nothingToRename else .renamed report.changed,
    .fieldCount fields.current report.done]

/-- Changes the documents, if any document is pending. -/
def changeIfPending (fields : Renaming) (rules : FailureRules) (pending : Nat) :
    Job Collection (Except String Nat) :=
  if pending = 0 then do
    Job.tell .nothingToRename
    pure (.ok 0)
  else fields.change rules

def conclude (fields : Renaming) (rules : FailureRules) (pending : Nat) (changed : Except String Nat) :
    Job Collection RenamingReport := do
  let done ← countField rules fields.current
  match changed with
  | .ok changed => return ⟨pending, changed, done, none⟩
  | .error detail => return ⟨pending, 0, done, some detail⟩

/-- A renaming in three parts, whether or not a document is pending. -/
theorem perform_eq : fields.perform rules = (do
    let pending ← countField rules fields.former
    let changed ← fields.changeIfPending rules pending
    fields.conclude rules pending changed) := by
  rw [perform]
  congr 1
  funext pending
  rw [changeIfPending]
  split
  · rw [bind_assoc]
    rfl
  · rfl

theorem run_countField (counted : rules.countFault? = none) :
    (countField rules field).run collection =
      ⟨.ok (collection.documents.countP (·.has field)), collection,
        [.fieldCount field (collection.documents.countP (·.has field))]⟩ := by
  have accepted : (Filter.having field).accepts = (·.has field) := funext fun _ => Filter.accepts_having
  simp [countField, Collection.count, counted, accepted, Outcome.andThen]

theorem run_change (updated : rules.updateFault? = none) :
    (fields.change rules).run collection =
      ⟨.ok (.ok (collection.documents.countP (·.has fields.former))), collection.renamed fields,
        [.renamed (collection.documents.countP (·.has fields.former))]⟩ := by
  simp [change, Collection.rename, updated, Collection.renamed, Outcome.andThen]

theorem run_changeIfPending
    (unhindered : collection.documents.countP (·.has fields.former) = 0 ∨ rules.updateFault? = none) :
    (fields.changeIfPending rules (collection.documents.countP (·.has fields.former))).run collection =
      ⟨.ok (.ok (collection.documents.countP (·.has fields.former))), collection.renamed fields,
        [if collection.documents.countP (·.has fields.former) = 0 then .nothingToRename
          else .renamed (collection.documents.countP (·.has fields.former))]⟩ := by
  rw [changeIfPending]
  split
  case isTrue none =>
    have missing : ∀ doc ∈ collection.documents, doc.has fields.former = false := by
      simpa using List.countP_eq_zero.mp none
    rw [Collection.renamed_of_missing missing, none]
    rfl
  case isFalse pending => exact run_change (unhindered.resolve_left pending)

/-- No update is needed where no document is pending, so that none can fail there. -/
theorem run_perform (counted : rules.countFault? = none)
    (unhindered : collection.documents.countP (·.has fields.former) = 0 ∨ rules.updateFault? = none) :
    (fields.perform rules).run collection =
      ⟨.ok (fields.report collection), collection.renamed fields,
        fields.notices (fields.report collection)⟩ := by
  have concluded : (fields.conclude rules (collection.documents.countP (·.has fields.former))
      (.ok (collection.documents.countP (·.has fields.former)))).run (collection.renamed fields) =
      ⟨.ok (fields.report collection), collection.renamed fields,
        [.fieldCount fields.current ((collection.renamed fields).documents.countP (·.has fields.current))]⟩ :=
    Job.run_bind_of_ok (run_countField counted) (Job.run_pure _)
  rw [perform_eq]
  refine Job.run_bind_of_ok (run_countField counted) ?_
  exact Job.run_bind_of_ok (run_changeIfPending unhindered) concluded

theorem readsOnly_countField : (countField rules field).ReadsOnly :=
  Job.readsOnly_get.bind fun _ => (Job.readsOnly_ofExcept _).bind fun _ =>
    (Job.readsOnly_tellAll _).bind fun _ => Job.readsOnly_pure _

theorem run_change_of_fault {fault : Fault} (refused : rules.updateFault? = some fault) :
    (fields.change rules).run collection =
      if fault.kind.isStore then
        ⟨.ok (.error fault.message), collection,
          [.renameFailed fields.former fault.message, .renameCanBeRepeated]⟩
      else ⟨.error (.store fault), collection, []⟩ := by
  cases reported : fault.kind.isStore <;>
    simp [change, Collection.rename, refused, reported, Outcome.andThen]

theorem respects_change {related : Collection → Collection → Prop}
    (reflexive : ∀ collection, related collection collection)
    (renamed : ∀ collection, related collection (collection.renamed fields)) :
    (fields.change rules).Respects related := by
  intro collection
  cases refusal : rules.updateFault? with
  | none =>
      rw [run_change refusal]
      exact renamed collection
  | some fault =>
      rw [run_change_of_fault refusal]
      split <;> exact reflexive collection

/-- However a renaming ends, the documents are as they were or renamed. -/
theorem respects_perform_of {related : Collection → Collection → Prop}
    (reflexive : ∀ collection, related collection collection)
    (transitive : ∀ first second third, related first second → related second third → related first third)
    (renamed : ∀ collection, related collection (collection.renamed fields)) :
    (fields.perform rules).Respects related := by
  rw [perform_eq]
  refine (readsOnly_countField.respects reflexive).bind transitive fun pending => ?_
  refine Job.Respects.bind transitive ?_ fun changed => ?_
  · rw [changeIfPending]
    split
    · exact ((Job.readsOnly_tellAll _).bind fun _ => Job.readsOnly_pure _).respects reflexive
    · exact respects_change reflexive renamed
  · refine Job.ReadsOnly.respects ?_ reflexive
    refine readsOnly_countField.bind fun done => ?_
    split <;> exact Job.readsOnly_pure _

end Renaming
end GameLogs
