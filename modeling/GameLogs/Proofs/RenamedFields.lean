import GameLogs.Proofs.Indifference
import GameLogs.Proofs.Renaming
namespace GameLogs

/-! What a renaming does to the documents of a collection, and what it reports.

In every document that has the former field its value moves to the current one; all else stays.  The counts
of the report are counts over the documents as they were, and a second renaming finds nothing to do.  If the
store refuses the update, nothing changes and the refusal is reported.  No count of games is affected, unless
the renaming is about the game itself.
-/

namespace Document

variable {fields : Renaming} {doc : Document} {key : String}

/-- A document and what a renaming makes of it. -/
inductive RenamedTo (fields : Renaming) : Document → Document → Prop
  /-- A document without the former field stays as it is. -/
  | untouched {doc : Document} (missing : doc.has fields.former = false) : RenamedTo fields doc doc
  /-- The value of the former field moves to the current one, which keeps its place if it was there and
  comes last otherwise. -/
  | moved {doc after : Document} {value : Value} (stored : doc.field? fields.former = some value)
      (current : after.field? fields.current = some value)
      (others : ∀ key, fields.Spares key → after.field? key = doc.field? key)
      (order : after.keys =
        if doc.has fields.current then doc.keys.filter (· ≠ fields.former)
        else doc.keys.filter (· ≠ fields.former) ++ [fields.current]) : RenamedTo fields doc after

theorem renamedTo_rename (different : fields.former ≠ fields.current) :
    RenamedTo fields doc (doc.rename fields.former fields.current) := by
  cases stored : doc.field? fields.former with
  | none =>
      have missing := has_eq_false_iff.mpr stored
      rw [rename_of_missing missing]
      exact .untouched missing
  | some value =>
      refine .moved stored ?_ (fun key spared => field?_rename_of_ne spared.1 spared.2) ?_
      · rw [rename_of_stored stored, field?_put_self]
      · have remaining : Entries.keys (doc.without fields.former) = doc.keys.filter (· ≠ fields.former) :=
          Entries.keys_remove
        have kept : fields.current ∈ doc.keys.filter (· ≠ fields.former) ↔ doc.has fields.current = true := by
          rw [has_iff_mem_keys, List.mem_filter]
          simp [Ne.symm different]
        rw [rename_of_stored stored, keys, put, Entries.keys_put, remaining]
        simp only [kept]

theorem has_rename_current :
    (doc.rename fields.former fields.current).has fields.current =
      (doc.has fields.former || doc.has fields.current) := by
  cases stored : doc.field? fields.former with
  | none =>
      have missing := has_eq_false_iff.mpr stored
      rw [rename_of_missing missing, missing, Bool.false_or]
  | some value =>
      have present : doc.has fields.former = true := by rw [has, stored, Option.isSome_some]
      rw [rename_of_stored stored, has_put, present, decide_eq_true rfl, Bool.true_or, Bool.true_or]

end Document

namespace Collection

variable {collection first second : Collection} {fields : Renaming} {rules : FailureRules}

theorem forall₂_renamedTo (different : fields.former ≠ fields.current) :
    List.Forall₂ (Document.RenamedTo fields) collection.documents (collection.renamed fields).documents := by
  rw [documents_renamed, List.forall₂_map_right_iff, List.forall₂_same]
  exact fun doc _ => Document.renamedTo_rename different

theorem countP_current_renamed :
    (collection.renamed fields).documents.countP (·.has fields.current) =
      collection.documents.countP fun doc => doc.has fields.former || doc.has fields.current := by
  rw [documents_renamed, List.countP_map]
  exact List.countP_congr fun doc _ => by rw [Function.comp_apply, Document.has_rename_current]

theorem countP_former_renamed (different : fields.former ≠ fields.current) :
    (collection.renamed fields).documents.countP (·.has fields.former) = 0 := by
  rw [documents_renamed, List.countP_map, List.countP_eq_zero]
  intro doc _
  rw [Function.comp_apply, Document.has_rename_former different]
  exact Bool.false_ne_true

def SameGames (first second : Collection) : Prop :=
  first.documents.map (·.field? Field.game) = second.documents.map (·.field? Field.game)

theorem SameGames.distinct_eq (same : first.SameGames second) :
    first.distinct rules Field.game = second.distinct rules Field.game := by
  have games : ∀ collection : Collection, collection.documents.filterMap (·.field? Field.game) =
      (collection.documents.map (·.field? Field.game)).filterMap id := by
    intro collection
    rw [List.filterMap_map]
    rfl
  rw [distinct, distinct, games, games, same]

theorem SameGames.count_eq (same : first.SameGames second) {value : Value} :
    first.count rules (.equal Field.game value) = second.count rules (.equal Field.game value) := by
  have counted : ∀ collection : Collection,
      collection.documents.countP (Filter.equal Field.game value).accepts =
        (collection.documents.map (·.field? Field.game)).countP fun found => (found.getD .null).equals value := by
    intro collection
    rw [List.countP_map]
    rfl
  rw [count, count, counted, counted, same]

end Collection

namespace GameCounts

variable {rules : FailureRules} {game : String × Value}

theorem indifferent_count : (count rules game).Indifferent Collection.SameGames := by
  refine Job.Indifferent.afterGet (fun first second same => by rw [same.count_eq]) fun collection => ?_
  refine (Job.indifferent_ofExcept _).bind fun counted => ?_
  split
  · exact Job.indifferent_of_run fun _ => rfl
  · exact Job.indifferent_pure _

theorem indifferent_perform : (perform rules).Indifferent Collection.SameGames := by
  refine Job.Indifferent.afterGet (fun first second same => by rw [same.distinct_eq]) fun collection => ?_
  refine (Job.indifferent_ofExcept _).bind fun games => ?_
  exact Job.Indifferent.mapM fun _ _ => indifferent_count

end GameCounts

namespace Renaming

variable {fields : Renaming} {rules : FailureRules} {collection : Collection}

theorem respects_sameGames (spared : fields.Spares Field.game) :
    (fields.perform rules).Respects Collection.SameGames :=
  respects_perform_of (fun _ => rfl) (fun _ _ _ earlier later => Eq.trans earlier later) fun _ =>
    (Collection.map_field?_renamed spared).symm

theorem run_conclude {pending : Nat} {detail : String} (counted : rules.countFault? = none) :
    (fields.conclude rules pending (.error detail)).run collection =
      ⟨.ok ⟨pending, 0, collection.documents.countP (·.has fields.current), some detail⟩, collection,
        [.fieldCount fields.current (collection.documents.countP (·.has fields.current))]⟩ :=
  Job.run_bind_of_ok (run_countField counted) (Job.run_pure _)

theorem run_perform_of_fault {fault : Fault} (counted : rules.countFault? = none)
    (refused : rules.updateFault? = some fault)
    (pending : 0 < collection.documents.countP (·.has fields.former)) :
    ((fields.perform rules).run collection).state = collection ∧
      ((fields.perform rules).run collection).result =
        if fault.kind.isStore then
          .ok ⟨collection.documents.countP (·.has fields.former), 0,
            collection.documents.countP (·.has fields.current), some fault.message⟩
        else .error (.store fault) := by
  have change : fields.changeIfPending rules (collection.documents.countP (·.has fields.former)) =
      fields.change rules := if_neg (Nat.ne_of_gt pending)
  have changed := @run_change_of_fault fields rules collection fault refused
  rw [← change] at changed
  rw [perform_eq]
  cases reported : fault.kind.isStore with
  | true =>
      rw [reported, if_pos rfl] at changed
      rw [Job.run_bind_of_ok (run_countField counted) (Job.run_bind_of_ok changed (run_conclude counted))]
      exact ⟨rfl, rfl⟩
  | false =>
      rw [reported, if_neg Bool.false_ne_true] at changed
      rw [Job.run_bind_of_ok (run_countField counted) (Job.run_bind_of_error changed)]
      exact ⟨rfl, rfl⟩

theorem report_eq : fields.report collection =
    ⟨collection.documents.countP (·.has fields.former), collection.documents.countP (·.has fields.former),
      collection.documents.countP (fun doc => doc.has fields.former || doc.has fields.current), none⟩ := by
  rw [report, Collection.countP_current_renamed]

theorem report_renamed (different : fields.former ≠ fields.current) :
    fields.report (collection.renamed fields) = ⟨0, 0, (fields.report collection).done, none⟩ := by
  rw [report, Collection.countP_former_renamed different, Collection.renamed_renamed different]
  rfl

/-- If the renaming succeeds, the value of the former field has moved to the current one wherever it was, and
nothing else has changed; the report counts the documents that had the former field, and those that had
either.  A second renaming changes nothing and reports so even under rules that refuse every update: it
issues none.  If the store refuses the update, the documents stay as they were, and the refusal is reported.  In
all cases the counts of the games stay the same if neither field is the game. -/
theorem perform_moves_field (different : fields.former ≠ fields.current) (rules : FailureRules)
    (collection : Collection) :
    let pending := collection.documents.countP (·.has fields.former)
    let had := collection.documents.countP fun doc => doc.has fields.former || doc.has fields.current
    let outcome := (fields.perform rules).run collection
    (rules.countFault? = none → pending = 0 ∨ rules.updateFault? = none →
      outcome.result = .ok ⟨pending, pending, had, none⟩ ∧
      List.Forall₂ (Document.RenamedTo fields) collection.documents outcome.state.documents ∧
      outcome.state.indexes = collection.indexes ∧ outcome.state.present = collection.present ∧
      ∀ later : FailureRules, later.countFault? = none →
        (fields.perform later).run outcome.state =
          ⟨.ok ⟨0, 0, had, none⟩, outcome.state,
            [.fieldCount fields.former 0, .nothingToRename, .fieldCount fields.current had]⟩) ∧
    (∀ fault, rules.countFault? = none → rules.updateFault? = some fault → 0 < pending →
      outcome.state = collection ∧
        outcome.result =
          if fault.kind.isStore then
            .ok ⟨pending, 0, collection.documents.countP (·.has fields.current), some fault.message⟩
          else .error (.store fault)) ∧
    (fields.Spares Field.game → ∀ reading : FailureRules,
      ((GameCounts.perform reading).run outcome.state).result =
        ((GameCounts.perform reading).run collection).result) := by
  refine ⟨fun counted unhindered => ?_, fun fault => run_perform_of_fault, fun spared reading => ?_⟩
  · rw [run_perform counted unhindered, report_eq]
    refine ⟨rfl, Collection.forall₂_renamedTo different, rfl, rfl, fun later counts => ?_⟩
    have again := @run_perform fields later (collection.renamed fields) counts
      (Or.inl (Collection.countP_former_renamed different))
    rw [report_renamed different, Collection.renamed_renamed different, report_eq] at again
    exact again
  · have same := @respects_sameGames fields rules spared collection
    exact (GameCounts.indifferent_perform _ _ same).1.symm

def mixture : Collection :=
  .ofDocuments [
    [("_id", .int 1), ("dbtimestamp", .int 10), ("game", .string "pump")],
    [("_id", .int 2), ("serverTimestamp", .int 20), ("game", .string "pump")],
    [("_id", .int 3), ("serverTimestamp", .int 30), ("event", .string "start"), ("dbtimestamp", .int 31)],
    [("_id", .int 4)]]

theorem perform_moves_field_of_mixture :
    standard.former ≠ standard.current ∧
      ((standard.perform []).run mixture).result = .ok ⟨2, 2, 3, none⟩ ∧
      List.Forall₂ (Document.RenamedTo standard) mixture.documents
        ((standard.perform []).run mixture).state.documents ∧
      ((standard.perform [.update ⟨.operation, "interrupted at shutdown"⟩]).run mixture).state = mixture ∧
      ((standard.perform [.update ⟨.operation, "interrupted at shutdown"⟩]).run mixture).result =
        .ok ⟨2, 0, 2, some "interrupted at shutdown"⟩ ∧
      standard.Spares Field.game ∧
      ((GameCounts.perform []).run ((standard.perform []).run mixture).state).result =
        ((GameCounts.perform []).run mixture).result := by
  have different : standard.former ≠ standard.current := by decide
  have spared : standard.Spares Field.game := by decide
  obtain ⟨succeeds, _, counted⟩ := perform_moves_field different [] mixture
  obtain ⟨reported, moved, _⟩ := succeeds rfl (Or.inr rfl)
  obtain ⟨_, fails, _⟩ :=
    perform_moves_field different [.update ⟨.operation, "interrupted at shutdown"⟩] mixture
  obtain ⟨kept, refused⟩ := fails _ rfl rfl (by decide)
  exact ⟨different, reported, moved, kept, refused, spared, counted spared []⟩

end Renaming
end GameLogs
