import GameLogs.Proofs.Copying
namespace GameLogs

/-! Tallies as counts over the deliveries that were made.

Every delivery is counted once.  Whether it counts as failed depends on the delivery and the rules
alone, not on what the target holds.  As many documents are added as are counted as migrated.
-/

def Insertion.isFailed : Insertion → Bool
  | .failed _ => true
  | _ => false

namespace Tally

variable {tally : Tally} {insertions : List Insertion}

theorem total_addAll : (tally.addAll insertions).total = tally.total + insertions.length := by
  induction insertions generalizing tally with
  | nil => rfl
  | cons insertion rest ih =>
      have step : (tally.add insertion).addAll rest = tally.addAll (insertion :: rest) := rfl
      rw [← step, ih, total_add, List.length_cons]
      omega

theorem migrated_addAll :
    (tally.addAll insertions).migrated = tally.migrated + insertions.count .inserted := by
  induction insertions generalizing tally with
  | nil => rfl
  | cons insertion rest ih =>
      have step : (tally.add insertion).addAll rest = tally.addAll (insertion :: rest) := rfl
      rw [← step, ih, List.count_cons]
      cases insertion with
      | inserted =>
          simp only [add, beq_self_eq_true, if_true]
          omega
      | alreadyExists => simp [add]
      | failed detail => simp [add]

theorem errors_addAll :
    (tally.addAll insertions).errors = tally.errors + insertions.countP Insertion.isFailed := by
  induction insertions generalizing tally with
  | nil => rfl
  | cons insertion rest ih =>
      have step : (tally.add insertion).addAll rest = tally.addAll (insertion :: rest) := rfl
      rw [← step, ih, List.countP_cons]
      cases insertion with
      | inserted => simp [add, Insertion.isFailed]
      | alreadyExists => simp [add, Insertion.isFailed]
      | failed detail =>
          simp only [add, Insertion.isFailed, if_true]
          omega

theorem migrated_add_judge {rules : FailureRules} {target : Collection} {doc : Document} :
    (tally.add (Insertion.judge rules target doc)).migrated =
      tally.migrated + if target.accepts rules doc then 1 else 0 := by
  cases accepted : target.accepts rules doc with
  | true => rw [Insertion.judge_eq_inserted_iff.mpr accepted]; rfl
  | false =>
      have judged := mt Insertion.judge_eq_inserted_iff.mp (Bool.eq_false_iff.mp accepted)
      cases outcome : Insertion.judge rules target doc with
      | inserted => exact absurd outcome judged
      | alreadyExists => rfl
      | failed detail => rfl

end Tally

/-- Why the insertion of a document fails, whatever the target holds: it has no identity, or its identity
is refused with another fault than that it is taken. -/
def Document.failure? (rules : FailureRules) (doc : Document) : Option String :=
  match doc.field? Field.identity with
  | none => some Insertion.missingIdentity
  | some identity => (rules.insertFault? identity).bind fun fault =>
      if fault.kind.isDuplicate then none else some fault.message

namespace Delivery

variable {delivery : Delivery} {rules : FailureRules} {target : Collection} {detail : String}

/-- The delivery has no identity, or one that is refused with another fault than that it is taken. -/
def failsUnder (delivery : Delivery) (rules : FailureRules) : Bool :=
  match delivery.identity? with
  | none => true
  | some identity => (rules.insertFault? identity).any fun fault => !fault.kind.isDuplicate

theorem judge_eq_failed_iff : Insertion.judge rules target delivery.canonical = .failed detail ↔
    delivery.document.failure? rules = some detail := by
  rw [Insertion.judge, has_canonical, Document.failure?, ← identity?]
  cases named : delivery.identity? with
  | none => simp
  | some identity =>
      simp only [Option.isSome_some, if_true, field_canonical named]
      cases rules.insertFault? identity with
      | some fault => cases duplicate : fault.kind.isDuplicate <;> simp [duplicate]
      | none => cases target.holds identity <;> simp

theorem failsUnder_eq : delivery.failsUnder rules = (delivery.document.failure? rules).isSome := by
  rw [failsUnder, Document.failure?, identity?]
  cases delivery.document.field? Field.identity with
  | none => rfl
  | some identity =>
      cases refusal : rules.insertFault? identity with
      | none => simp [refusal]
      | some fault => cases duplicate : fault.kind.isDuplicate <;> simp [refusal, duplicate]

theorem isFailed_judge :
    (Insertion.judge rules target delivery.canonical).isFailed = delivery.failsUnder rules := by
  rw [failsUnder_eq]
  cases found : delivery.document.failure? rules with
  | some detail => rw [judge_eq_failed_iff.mpr found]; rfl
  | none =>
      cases judged : Insertion.judge rules target delivery.canonical with
      | inserted => rfl
      | alreadyExists => rfl
      | failed detail =>
          rw [judge_eq_failed_iff.mp judged] at found
          cases found

theorem failsUnder_of_allowed (allowed : delivery.AllowedBy rules) :
    delivery.failsUnder rules = !delivery.document.has Field.identity := by
  have present : delivery.document.has Field.identity = delivery.identity?.isSome := rfl
  rw [present, failsUnder]
  cases named : delivery.identity? with
  | none => rfl
  | some identity => simp [allowed identity named]

end Delivery

namespace Collection

variable {target : Collection} {rules : FailureRules} {delivery : Delivery} {deliveries : List Delivery}

theorem length_verdicts : (target.verdicts rules deliveries).length = deliveries.length := by
  induction deliveries generalizing target with
  | nil => rfl
  | cons delivery rest ih => rw [verdicts, List.length_cons, ih, List.length_cons]

theorem countP_isFailed_verdicts :
    (target.verdicts rules deliveries).countP Insertion.isFailed =
      deliveries.countP (·.failsUnder rules) := by
  induction deliveries generalizing target with
  | nil => rfl
  | cons delivery rest ih =>
      rw [verdicts, List.countP_cons, List.countP_cons, ih, Delivery.isFailed_judge]

theorem total_tally : (target.tally rules deliveries).total = deliveries.length := by
  rw [tally, Tally.total_addAll, length_verdicts]
  exact Nat.zero_add _

theorem errors_tally : (target.tally rules deliveries).errors = deliveries.countP (·.failsUnder rules) := by
  rw [tally, Tally.errors_addAll, countP_isFailed_verdicts]
  exact Nat.zero_add _

@[simp] theorem tally_nil : target.tally rules [] = .zero := rfl

theorem migrated_tally_cons : (target.tally rules (delivery :: deliveries)).migrated =
    (if target.accepts rules delivery.canonical then 1 else 0) +
      ((target.offer rules delivery.canonical).tally rules deliveries).migrated := by
  have step : target.tally rules (delivery :: deliveries) =
      (Tally.zero.add (Insertion.judge rules target delivery.canonical)).addAll
        ((target.offer rules delivery.canonical).verdicts rules deliveries) := rfl
  rw [step, Tally.migrated_addAll, Tally.migrated_add_judge, tally, Tally.migrated_addAll]
  simp [Tally.zero]

/-- Of documents that count all or none, those are added that the tally counts as migrated. -/
theorem countP_receive {counts : Document → Bool} {counted : Bool}
    (uniform : ∀ delivery ∈ deliveries, counts delivery.canonical = counted) :
    (target.receive rules deliveries).documents.countP counts =
      target.documents.countP counts + if counted then (target.tally rules deliveries).migrated else 0 := by
  induction deliveries generalizing target with
  | nil => simp [Tally.zero]
  | cons delivery rest ih =>
      obtain ⟨first, later⟩ := List.forall_mem_cons.mp uniform
      rw [receive_cons, ih later, migrated_tally_cons]
      cases accepted : target.accepts rules delivery.canonical with
      | false =>
          rw [offer_of_not_accepts accepted]
          simp
      | true =>
          rw [offer_of_accepts accepted]
          simp only [append, List.countP_append, List.countP_singleton, first]
          split <;> simp [Nat.add_assoc]

theorem length_receive : (target.receive rules deliveries).documents.length =
    target.documents.length + (target.tally rules deliveries).migrated := by
  simpa using @countP_receive target rules deliveries (fun _ => true) true fun _ _ => rfl

end Collection
end GameLogs
