import GameLogs.Proofs.Settlement
namespace GameLogs

/-! The document that an identity leads to once all deliveries have come.

It is the one that was there before, or else the first delivery with that identity.  A target is on
course as long as it leads every identity there or nowhere; it stays so if it is offered no delivery
before those in front of it are settled, whatever is refused in the meantime.
-/

namespace Delivery

def bears (delivery : Delivery) (identity : Value) : Bool :=
  delivery.identity?.any fun own => own.equals identity

theorem bears_iff {delivery : Delivery} {identity : Value} :
    delivery.bears identity = true ↔
      ∃ own, delivery.identity? = some own ∧ own.equals identity = true :=
  Option.any_eq_true _ _

end Delivery

namespace Collection

variable {collection initial target : Collection} {rules : FailureRules} {identity : Value}
  {doc : Document} {delivery : Delivery} {stream before deliveries after : List Delivery}

/-- The first document that has an identity; a document without one counts as null. -/
def document? (collection : Collection) (identity : Value) : Option Document :=
  collection.documents.find? fun doc => (doc.field Field.identity).equals identity

theorem isSome_document? : (collection.document? identity).isSome = collection.holds identity :=
  List.isSome_find?

theorem document?_eq_none_iff : collection.document? identity = none ↔ collection.holds identity = false := by
  rw [← isSome_document?, Option.isSome_eq_false_iff, Option.isNone_iff_eq_none]

theorem document?_append : (collection.append doc).document? identity =
    (collection.document? identity).or
      (if (doc.field Field.identity).equals identity then some doc else none) := by
  rw [document?, append, List.find?_append]
  cases same : (doc.field Field.identity).equals identity <;> simp [same, document?]

def destined? (initial : Collection) (stream : List Delivery) (identity : Value) : Option Document :=
  (initial.document? identity).or ((stream.find? (·.bears identity)).map Delivery.canonical)

/-- A target that has kept what it held at first, and in which no identity leads anywhere but to
the document that it leads to in the end. -/
structure OnCourse (initial : Collection) (stream : List Delivery) (target : Collection) : Prop where
  kept : ∀ identity doc, initial.document? identity = some doc → target.document? identity = some doc
  destined : ∀ identity doc, target.document? identity = some doc →
    initial.destined? stream identity = some doc

theorem onCourse_refl : initial.OnCourse stream initial where
  kept _ _ found := found
  destined identity doc found := by rw [destined?, found, Option.some_or]

/-- No delivery in front of one that is accepted bears an identity that equals its own. -/
private theorem not_bears_of_settles {own : Value} (settled : target.Settles rules delivery)
    (allowed : rules.insertFault? own = none) (free : target.holds own = false)
    (same : own.equals identity = true) : delivery.bears identity = false := by
  rw [Bool.eq_false_iff]
  intro borne
  obtain ⟨other, named, equal⟩ := Delivery.bears_iff.mp borne
  have back : other.equals own = true := Value.equals_trans equal (Value.equals_symm same)
  have held : target.holds other = true :=
    settled other named (by rw [FailureRules.insertFault?_of_equals back, allowed])
  rw [holds_of_equals back held] at free
  cases free

theorem OnCourse.unknown (onCourse : initial.OnCourse stream target)
    (missing : target.document? identity = none) : initial.document? identity = none := by
  cases known : initial.document? identity with
  | none => rfl
  | some doc =>
      rw [onCourse.kept identity doc known] at missing
      cases missing

theorem OnCourse.offer (onCourse : initial.OnCourse stream target)
    (place : stream = before ++ delivery :: after)
    (settled : ∀ other ∈ before, target.Settles rules other) :
    initial.OnCourse stream (target.offer rules delivery.canonical) := by
  cases accepted : target.accepts rules delivery.canonical with
  | false =>
      rw [offer_of_not_accepts accepted]
      exact onCourse
  | true =>
      obtain ⟨own, named, allowed, free⟩ := accepts_iff.mp accepted
      rw [offer_of_accepts accepted]
      refine ⟨fun identity doc found => ?_, fun identity doc found => ?_⟩
      · rw [document?_append, onCourse.kept identity doc found, Option.some_or]
      · rw [document?_append, Delivery.field_canonical named] at found
        cases stored : target.document? identity with
        | some there =>
            rw [stored, Option.some_or] at found
            exact onCourse.destined identity doc (stored.trans found)
        | none =>
            rw [stored, Option.none_or] at found
            obtain ⟨same, inserted⟩ := Option.ite_none_right_eq_some.mp found
            obtain rfl := Option.some.inj inserted
            have first : stream.find? (·.bears identity) = some delivery := by
              refine List.find?_eq_some_iff_append.mpr
                ⟨Delivery.bears_iff.mpr ⟨own, named, same⟩, before, after, place, ?_⟩
              intro other member
              rw [not_bears_of_settles (settled other member) allowed free same, Bool.not_false]
            rw [destined?, onCourse.unknown stored, Option.none_or, first, Option.map_some]

theorem OnCourse.receive (onCourse : initial.OnCourse stream target)
    (place : stream = before ++ deliveries ++ after)
    (proper : ∀ delivery ∈ deliveries, delivery.Proper)
    (settled : ∀ other ∈ before, target.Settles rules other) :
    initial.OnCourse stream (target.receive rules deliveries) := by
  induction deliveries generalizing before target with
  | nil => exact onCourse
  | cons delivery rest ih =>
      obtain ⟨first, later⟩ := List.forall_mem_cons.mp proper
      have here : stream = before ++ delivery :: (rest ++ after) := by simpa using place
      have next : stream = (before ++ [delivery]) ++ rest ++ after := by simpa using place
      rw [receive_cons]
      -- What has been offered joins the deliveries in front: it is settled from now on.
      refine ih (onCourse.offer here settled) next later ?_
      intro other member
      rcases List.mem_append.mp member with earlier | last
      · exact (settled other earlier).offer
      · obtain rfl := List.mem_singleton.mp last
        exact settles_offer first

/-- A target that settles all deliveries has come to the end of its course, if none is refused. -/
theorem OnCourse.document?_eq (onCourse : initial.OnCourse stream target)
    (settled : ∀ delivery ∈ stream, target.Settles rules delivery)
    (allowed : ∀ delivery ∈ stream, delivery.AllowedBy rules) (identity : Value) :
    target.document? identity = initial.destined? stream identity := by
  cases stored : target.document? identity with
  | some doc => exact (onCourse.destined identity doc stored).symm
  | none =>
      have unknown := onCourse.unknown stored
      cases first : stream.find? (·.bears identity) with
      | none => rw [destined?, unknown, first]; rfl
      | some delivery =>
          have member := List.mem_of_find?_eq_some first
          have borne : delivery.bears identity = true := by simpa using List.find?_some first
          obtain ⟨own, named, same⟩ := Delivery.bears_iff.mp borne
          have held := settled delivery member own named (allowed delivery member own named)
          rw [document?_eq_none_iff, holds_of_equals same held] at stored
          cases stored

end Collection
end GameLogs
