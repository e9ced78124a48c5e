import GameLogs.Consolidation.Source
import GameLogs.Proofs.Canonical
import GameLogs.Proofs.Insertion
namespace GameLogs

/-! Deliveries: the documents of all sources in the order in which they reach the target.

A target that receives deliveries takes up those whose identity is neither refused, nor held, nor
taken by a delivery before.
-/

/-- A document of a source on its way to the target. -/
structure Delivery where
  source : Source
  document : Document

namespace Delivery

def canonical (delivery : Delivery) : Document := delivery.source.canonical delivery.document

def identity? (delivery : Delivery) : Option Value := delivery.document.field? Field.identity

/-- The identity equals itself, if there is one: the store finds it again. -/
def Proper (delivery : Delivery) : Prop :=
  ∀ identity, delivery.identity? = some identity → identity.equals identity = true

def AllowedBy (delivery : Delivery) (rules : FailureRules) : Prop :=
  ∀ identity, delivery.identity? = some identity → rules.insertFault? identity = none

variable {delivery : Delivery} {rules : FailureRules} {identity : Value}

instance : Decidable delivery.Proper :=
  decidable_of_iff (∀ identity ∈ delivery.identity?, identity.equals identity = true) Iff.rfl

instance : Decidable (delivery.AllowedBy rules) :=
  decidable_of_iff (∀ identity ∈ delivery.identity?, rules.insertFault? identity = none) Iff.rfl

theorem has_canonical : delivery.canonical.has Field.identity = delivery.identity?.isSome :=
  Document.has_canonical_identity

theorem field_canonical (named : delivery.identity? = some identity) :
    delivery.canonical.field Field.identity = identity := by
  rw [canonical, Source.canonical, Document.field_canonical_identity, Document.field]
  rw [identity?] at named
  rw [named, Option.getD_some]

theorem field?_game : delivery.canonical.field? Field.game = some (.string delivery.source.game) :=
  Document.field?_canonical_game

end Delivery

namespace Database

def batch (database : Database) (source : Source) : List Delivery :=
  (database.collection source.name).documents.map (Delivery.mk source)

def sources (database : Database) : List Source := (Classification.ofNames database.names).sources

def deliveries (database : Database) : List Delivery := database.sources.flatMap database.batch

end Database

/-- The deliveries that enter a collection in which some identities are held: those whose identity
is not refused, and equal to none that is held or has entered before. -/
def admitted (rules : FailureRules) : List Value → List Delivery → List Delivery
  | _, [] => []
  | held, delivery :: rest =>
      match delivery.identity? with
      | none => admitted rules held rest
      | some identity =>
          if rules.insertFault? identity = none ∧ ∀ other ∈ held, other.equals identity = false then
            delivery :: admitted rules (held ++ [identity]) rest
          else admitted rules held rest

namespace Collection

/-- The identities of the documents; a document without one counts as null. -/
def identities (collection : Collection) : List Value :=
  collection.documents.map fun doc => doc.field Field.identity

def receive (rules : FailureRules) (target : Collection) (deliveries : List Delivery) : Collection :=
  deliveries.foldl (fun target delivery => target.offer rules delivery.canonical) target

def verdicts (rules : FailureRules) : Collection → List Delivery → List Insertion
  | _, [] => []
  | target, delivery :: rest =>
      Insertion.judge rules target delivery.canonical ::
        verdicts rules (target.offer rules delivery.canonical) rest

variable {target : Collection} {rules : FailureRules} {delivery : Delivery}
  {deliveries others : List Delivery} {identity : Value}

@[simp] theorem receive_nil : target.receive rules [] = target := rfl

theorem receive_cons : target.receive rules (delivery :: deliveries) =
    (target.offer rules delivery.canonical).receive rules deliveries := rfl

theorem receive_append : target.receive rules (deliveries ++ others) =
    (target.receive rules deliveries).receive rules others :=
  List.foldl_append

theorem holds_receive (held : target.holds identity = true) :
    (target.receive rules deliveries).holds identity = true := by
  induction deliveries generalizing target with
  | nil => exact held
  | cons delivery rest ih => exact ih (holds_offer held)

theorem holds_eq_false_iff :
    target.holds identity = false ↔ ∀ other ∈ target.identities, other.equals identity = false := by
  simp [holds, identities]

theorem accepts_iff : target.accepts rules delivery.canonical = true ↔
    ∃ identity, delivery.identity? = some identity ∧ rules.insertFault? identity = none ∧
      target.holds identity = false := by
  unfold accepts
  rw [Delivery.has_canonical]
  cases named : delivery.identity? with
  | none => simp
  | some identity => simp [Delivery.field_canonical named]

theorem documents_receive : (target.receive rules deliveries).documents =
    target.documents ++ (admitted rules target.identities deliveries).map Delivery.canonical := by
  induction deliveries generalizing target with
  | nil => simp [admitted]
  | cons delivery rest ih =>
      rw [receive_cons, ih]
      cases accepted : target.accepts rules delivery.canonical with
      | true =>
          obtain ⟨identity, named, allowed, free⟩ := accepts_iff.mp accepted
          have grown : (target.append delivery.canonical).identities = target.identities ++ [identity] := by
            simp [identities, append, Delivery.field_canonical named]
          rw [offer_of_accepts accepted, grown]
          simp only [admitted, named, allowed, true_and]
          rw [if_pos (holds_eq_false_iff.mp free), List.map_cons]
          simp [append]
      | false =>
          rw [offer_of_not_accepts accepted]
          cases named : delivery.identity? with
          | none => simp only [admitted, named]
          | some identity =>
              have refused : ¬ (rules.insertFault? identity = none ∧
                  ∀ other ∈ target.identities, other.equals identity = false) := by
                rintro ⟨allowed, free⟩
                have accepts := accepts_iff.mpr ⟨identity, named, allowed, holds_eq_false_iff.mpr free⟩
                rw [accepted] at accepts
                cases accepts
              simp only [admitted, named]
              rw [if_neg refused]

end Collection
end GameLogs
