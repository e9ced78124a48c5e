import GameLogs.Proofs.Destination
import GameLogs.Proofs.Lossless
import GameLogs.Proofs.Tallies
import Mathlib.Data.List.Pairwise
namespace GameLogs

/-! What a target holds after deliveries, whatever their order.

Of several deliveries with equal identities the first is taken up, so that the order decides between
them.  It decides neither how many are taken up nor which identities are held afterwards.
-/

theorem Tally.eq_of_total {first second : Tally} (migrated : first.migrated = second.migrated)
    (errors : first.errors = second.errors) (total : first.total = second.total) : first = second := by
  cases first
  cases second
  simp only [Tally.total, Tally.mk.injEq] at *
  omega

namespace Delivery

variable {delivery another : Delivery} {deliveries others : List Delivery} {identity : Value}

instance : Std.Symm Apart where
  symm _ _ apart another its own here :=
    Bool.eq_false_iff.mpr fun equal =>
      Bool.eq_false_iff.mp (apart own here another its) (Value.equals_symm equal)

theorem bears_eq {own : Value} (named : delivery.identity? = some own) :
    delivery.bears identity = own.equals identity := by
  rw [bears, named, Option.any_some]

/-- Of deliveries whose identities are all different, only one bears an identity. -/
theorem eq_of_bears (apart : deliveries.Pairwise Apart) (member : delivery ∈ deliveries)
    (alsoMember : another ∈ deliveries) (borne : delivery.bears identity = true)
    (alsoBorne : another.bears identity = true) : delivery = another := by
  by_contra different
  obtain ⟨own, named, equal⟩ := bears_iff.mp borne
  obtain ⟨other, alsoNamed, alsoEqual⟩ := bears_iff.mp alsoBorne
  have differ := apart.forall member alsoMember different own named other alsoNamed
  rw [Value.equals_trans equal (Value.equals_symm alsoEqual)] at differ
  cases differ

theorem find?_bears_of_mem (apart : deliveries.Pairwise Apart) (member : delivery ∈ deliveries)
    (borne : delivery.bears identity = true) : deliveries.find? (·.bears identity) = some delivery := by
  cases found : deliveries.find? (·.bears identity) with
  | none => exact absurd borne (List.find?_eq_none.mp found delivery member)
  | some another =>
      have alsoBorne : another.bears identity = true := by simpa using List.find?_some found
      rw [eq_of_bears apart member (List.mem_of_find?_eq_some found) borne alsoBorne]

theorem find?_bears_of_perm (permuted : deliveries.Perm others) (apart : deliveries.Pairwise Apart) :
    deliveries.find? (·.bears identity) = others.find? (·.bears identity) := by
  cases found : others.find? (·.bears identity) with
  | none =>
      rw [List.find?_eq_none] at found ⊢
      exact fun delivery member => found delivery (permuted.mem_iff.mp member)
  | some delivery =>
      have borne : delivery.bears identity = true := by simpa using List.find?_some found
      exact find?_bears_of_mem apart (permuted.mem_iff.mpr (List.mem_of_find?_eq_some found)) borne

end Delivery

namespace Collection

variable {target first second : Collection} {rules : FailureRules} {delivery one other : Delivery}
  {deliveries others : List Delivery} {identity : Value}

/-- Whether a delivery with an identity that is free is accepted depends on the rules alone. -/
theorem accepts_of_bears (borne : delivery.bears identity = true) (free : target.holds identity = false) :
    target.accepts rules delivery.canonical = (rules.insertFault? identity).isNone := by
  obtain ⟨own, named, same⟩ := Delivery.bears_iff.mp borne
  have ownFree : target.holds own = false := by
    rw [Bool.eq_false_iff]
    intro held
    rw [holds_of_equals same held] at free
    cases free
  rw [accepts, Delivery.has_canonical, Delivery.field_canonical named, ownFree, named,
    FailureRules.insertFault?_of_equals same]
  simp

theorem document?_offer : (target.offer rules delivery.canonical).document? identity =
    (target.document? identity).or
      (if (rules.insertFault? identity).isNone && delivery.bears identity then some delivery.canonical
        else none) := by
  rw [offer_eq]
  cases stored : target.document? identity with
  | some doc =>
      split
      · rw [document?_append, stored, Option.some_or, Option.some_or]
      · rw [stored, Option.some_or]
  | none =>
      split
      case isTrue accepted =>
        obtain ⟨own, named, _⟩ := accepts_iff.mp accepted
        rw [document?_append, stored, Delivery.field_canonical named, ← Delivery.bears_eq named]
        cases borne : delivery.bears identity with
        | false => simp
        | true => simp [← accepts_of_bears borne (document?_eq_none_iff.mp stored), accepted]
      case isFalse refused =>
        cases borne : delivery.bears identity with
        | false => simp [stored]
        | true =>
            rw [← accepts_of_bears borne (document?_eq_none_iff.mp stored), Bool.eq_false_iff.mpr refused]
            exact stored

/-- The document of an identity is the one that was there, or else that of the first delivery with this
identity, unless the identity is refused. -/
theorem document?_receive : (target.receive rules deliveries).document? identity =
    (target.document? identity).or
      (if (rules.insertFault? identity).isNone then
        (deliveries.find? (·.bears identity)).map Delivery.canonical else none) := by
  induction deliveries generalizing target with
  | nil => simp
  | cons delivery rest ih =>
      rw [receive_cons, ih, document?_offer, Option.or_assoc, List.find?_cons]
      cases (rules.insertFault? identity).isNone <;> cases delivery.bears identity <;> simp

theorem holds_receive_eq : (target.receive rules deliveries).holds identity =
    (target.holds identity ||
      ((rules.insertFault? identity).isNone && deliveries.any (·.bears identity))) := by
  rw [← isSome_document?, document?_receive, Option.isSome_or, isSome_document?]
  cases (rules.insertFault? identity).isNone with
  | false => rfl
  | true =>
      rw [if_pos rfl, Option.isSome_map, List.isSome_find?]
      rfl

/-- Up to equality of values, the same identities are held. -/
def SameIdentities (first second : Collection) : Prop :=
  ∀ identity, first.holds identity = second.holds identity

theorem SameIdentities.refl : target.SameIdentities target := fun _ => rfl

theorem SameIdentities.accepts_eq (same : first.SameIdentities second) {doc : Document} :
    first.accepts rules doc = second.accepts rules doc := by
  rw [accepts, accepts, same]

theorem SameIdentities.receive (same : first.SameIdentities second) (permuted : deliveries.Perm others) :
    (first.receive rules deliveries).SameIdentities (second.receive rules others) := by
  intro identity
  rw [holds_receive_eq, holds_receive_eq, same, permuted.any_eq]

theorem SameIdentities.offer (same : first.SameIdentities second) :
    (first.offer rules delivery.canonical).SameIdentities (second.offer rules delivery.canonical) :=
  same.receive (.refl [delivery])

theorem SameIdentities.migrated_eq (same : first.SameIdentities second) :
    (first.tally rules deliveries).migrated = (second.tally rules deliveries).migrated := by
  induction deliveries generalizing first second with
  | nil => rfl
  | cons delivery rest ih => rw [migrated_tally_cons, migrated_tally_cons, same.accepts_eq, ih same.offer]

private theorem accepts_offer {own another : Value} (named : one.identity? = some own)
    (alsoNamed : other.identity? = some another) (accepted : target.accepts rules one.canonical = true)
    (alsoAccepted : target.accepts rules other.canonical = true) :
    (target.offer rules one.canonical).accepts rules other.canonical = !own.equals another := by
  obtain ⟨_, same, allowed, free⟩ := accepts_iff.mp alsoAccepted
  obtain rfl := Option.some.inj (alsoNamed.symm.trans same)
  rw [offer_of_accepts accepted, accepts, Delivery.has_canonical, Delivery.field_canonical alsoNamed,
    holds_append, Delivery.field_canonical named, allowed, free, alsoNamed]
  rfl

private theorem accepts_offer_of_refused {doc : Document}
    (refused : target.accepts rules one.canonical = false) :
    (target.offer rules doc).accepts rules one.canonical = false :=
  accepts_eq_false_iff.mpr (accepts_eq_false_iff.mp refused).offer

/-- Of two deliveries as many are accepted in one order as in the other. -/
private theorem accepts_pair :
    (if target.accepts rules one.canonical then 1 else 0) +
        (if (target.offer rules one.canonical).accepts rules other.canonical then 1 else 0) =
      (if target.accepts rules other.canonical then 1 else 0) +
        if (target.offer rules other.canonical).accepts rules one.canonical then 1 else 0 := by
  -- What is refused is so behind the other as well; two that are accepted can only meet each other.
  cases accepted : target.accepts rules one.canonical with
  | false => rw [offer_of_not_accepts accepted, accepts_offer_of_refused accepted, Nat.add_comm]
  | true =>
      cases alsoAccepted : target.accepts rules other.canonical with
      | false =>
          rw [offer_of_not_accepts alsoAccepted, accepts_offer_of_refused alsoAccepted, accepted,
            Nat.add_comm]
      | true =>
          obtain ⟨own, named, _⟩ := accepts_iff.mp accepted
          obtain ⟨another, alsoNamed, _⟩ := accepts_iff.mp alsoAccepted
          have symmetric : own.equals another = another.equals own :=
            Bool.eq_iff_iff.mpr ⟨Value.equals_symm, Value.equals_symm⟩
          rw [accepts_offer named alsoNamed accepted alsoAccepted,
            accepts_offer alsoNamed named alsoAccepted accepted, symmetric]

theorem migrated_tally_of_perm (permuted : deliveries.Perm others) :
    (target.tally rules deliveries).migrated = (target.tally rules others).migrated := by
  induction permuted generalizing target with
  | nil => rfl
  | cons delivery _ ih => rw [migrated_tally_cons, migrated_tally_cons, ih]
  | swap one other rest =>
      -- Behind the two the same identities are held, so that only the two themselves could make a difference.
      have both : ((target.offer rules other.canonical).offer rules one.canonical).SameIdentities
          ((target.offer rules one.canonical).offer rules other.canonical) :=
        SameIdentities.refl.receive (.swap one other [])
      have left := @SameIdentities.migrated_eq _ _ rules rest both
      have pair := @accepts_pair target rules one other
      simp only [migrated_tally_cons]
      omega
  | trans _ _ first second => rw [first, second]

/-- A tally depends on the order neither of the deliveries nor of those that came before. -/
theorem SameIdentities.tally_eq (same : first.SameIdentities second) (permuted : deliveries.Perm others) :
    first.tally rules deliveries = second.tally rules others := by
  have migrated := same.migrated_eq.trans (@migrated_tally_of_perm second rules _ _ permuted)
  have errors : (first.tally rules deliveries).errors = (second.tally rules others).errors := by
    rw [errors_tally, errors_tally, permuted.countP_eq]
  have total : (first.tally rules deliveries).total = (second.tally rules others).total := by
    rw [total_tally, total_tally, permuted.length_eq]
  exact Tally.eq_of_total migrated errors total

end Collection

end GameLogs
