import GameLogs.Proofs.Delivery
namespace GameLogs

/-! Deliveries that bring nothing to a collection any more.

A collection settles a delivery once it holds its identity, and it goes on settling it, because no
attempt to insert a document frees an identity.
-/

namespace Collection

variable {target later : Collection} {rules : FailureRules} {delivery : Delivery}
  {deliveries : List Delivery}

/-- The identity of a delivery is missing, refused or held. -/
def Settles (target : Collection) (rules : FailureRules) (delivery : Delivery) : Prop :=
  ∀ identity, delivery.identity? = some identity → rules.insertFault? identity = none →
    target.holds identity = true

theorem accepts_eq_false_iff : target.accepts rules delivery.canonical = false ↔ target.Settles rules delivery := by
  rw [Bool.eq_false_iff, ne_eq, accepts_iff]
  constructor
  · intro refused identity named allowed
    cases free : target.holds identity with
    | true => rfl
    | false => exact absurd ⟨identity, named, allowed, free⟩ refused
  · rintro settled ⟨identity, named, allowed, free⟩
    rw [settled identity named allowed] at free
    cases free

theorem Settles.mono (settled : target.Settles rules delivery)
    (kept : ∀ identity, target.holds identity = true → later.holds identity = true) :
    later.Settles rules delivery :=
  fun identity named allowed => kept identity (settled identity named allowed)

theorem Settles.offer (settled : target.Settles rules delivery) {others : FailureRules} {doc : Document} :
    (target.offer others doc).Settles rules delivery :=
  settled.mono fun _ => holds_offer

theorem offer_of_settles (settled : target.Settles rules delivery) :
    target.offer rules delivery.canonical = target :=
  offer_of_not_accepts (accepts_eq_false_iff.mpr settled)

theorem settles_offer (proper : delivery.Proper) :
    (target.offer rules delivery.canonical).Settles rules delivery := by
  intro identity named allowed
  have field := Delivery.field_canonical named
  rw [← field]
  apply holds_offer_self
  · rw [Delivery.has_canonical, named, Option.isSome_some]
  · rw [field, allowed]
  · rw [field]
    exact proper identity named

theorem receive_of_settles (settled : ∀ delivery ∈ deliveries, target.Settles rules delivery) :
    target.receive rules deliveries = target := by
  induction deliveries with
  | nil => rfl
  | cons delivery rest ih =>
      obtain ⟨first, later⟩ := List.forall_mem_cons.mp settled
      rw [receive_cons, offer_of_settles first, ih later]

theorem settles_receive (proper : ∀ delivery ∈ deliveries, delivery.Proper) :
    ∀ delivery ∈ deliveries, (target.receive rules deliveries).Settles rules delivery := by
  induction deliveries generalizing target with
  | nil => simp
  | cons delivery rest ih =>
      obtain ⟨first, later⟩ := List.forall_mem_cons.mp proper
      refine List.forall_mem_cons.mpr ⟨?_, ih later⟩
      rw [receive_cons]
      exact (settles_offer first).mono fun _ => holds_receive

theorem verdicts_again (proper : ∀ delivery ∈ deliveries, delivery.Proper)
    (kept : ∀ identity, (target.receive rules deliveries).holds identity = true →
      later.holds identity = true) :
    later.verdicts rules deliveries = (target.verdicts rules deliveries).map Insertion.again := by
  induction deliveries generalizing target with
  | nil => rfl
  | cons delivery rest ih =>
      obtain ⟨first, others⟩ := List.forall_mem_cons.mp proper
      have held : ∀ identity, (target.offer rules delivery.canonical).holds identity = true →
          later.holds identity = true := by
        intro identity offered
        apply kept
        rw [receive_cons]
        exact holds_receive offered
      have sound : delivery.canonical.has Field.identity = true →
          (delivery.canonical.field Field.identity).equals (delivery.canonical.field Field.identity) = true := by
        intro present
        rw [Delivery.has_canonical] at present
        obtain ⟨identity, named⟩ := Option.isSome_iff_exists.mp present
        rw [Delivery.field_canonical named]
        exact first identity named
      have settled : later.offer rules delivery.canonical = later :=
        offer_of_settles ((settles_offer first).mono held)
      rw [verdicts, verdicts, List.map_cons, Insertion.judge_again sound held, settled, ih others kept]

end Collection
end GameLogs
