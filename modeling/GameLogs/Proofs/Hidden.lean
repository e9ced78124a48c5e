import GameLogs.Proofs.Canonical
namespace GameLogs.Document

/-! The keys of a payload that the root hides.

They are those under which the canonical form does not change when the payload is taken away.
-/

variable {doc payload : Document} {game : Value} {flatten : Bool} {key : String}

/-- Keys are distinct in the root and in the payload. -/
def Regular (doc : Document) : Prop := doc.keys.Nodup ∧ ∀ payload ∈ doc.payload?, payload.keys.Nodup

instance : Decidable doc.Regular :=
  inferInstanceAs (Decidable (doc.keys.Nodup ∧ ∀ payload ∈ doc.payload?, payload.keys.Nodup))

/-- The payload has a key, and is left without effect under it. -/
def Hides (doc : Document) (game : Value) (key : String) : Prop :=
  (∃ payload, doc.payload? = some payload ∧ payload.has key = true) ∧
    (doc.canonical game true).field? key = ((doc.without Field.payload).canonical game true).field? key

theorem payload?_without_payload : (doc.without Field.payload).payload? = none := by
  have removed : (doc.without Field.payload).field? Field.payload = none := Entries.item?_remove_self
  rw [payload?, Document.field, removed]
  rfl

theorem heading_without_payload : (doc.without Field.payload).heading game = doc.heading game := by
  have kept : (doc.without Field.payload).field? Field.identity = doc.field? Field.identity :=
    Entries.item?_remove_of_ne (by decide)
  rw [heading, heading, kept]

theorem canonical_without_payload : (doc.without Field.payload).canonical game flatten = doc.rootPart game := by
  have skipped : ∀ (form : Document) (field : String × Value),
      (if decide (field.1 ≠ Field.payload) = true then form.addRootField field else form) =
        form.addRootField field := by
    intro form field
    by_cases payload : field.1 = Field.payload
    · simp [addRootField, payload]
    · simp [payload]
  rw [canonical, payload?_without_payload, heading_without_payload]
  simp only [without, Entries.remove, List.foldl_filter, skipped]
  rfl

theorem hides_iff_rootPart : doc.Hides game key ↔
    (doc.payload?.any fun payload => payload.has key) = true ∧
      (key = Field.identity ∨ (doc.rootPart game).has key = true) := by
  rw [Hides, Option.any_eq_true]
  refine and_congr_right fun ⟨payload, found, present⟩ => ?_
  obtain ⟨value, stored⟩ := Option.isSome_iff_exists.mp present
  rw [canonical_without_payload, field?_canonical, found, has]
  by_cases identity : key = Field.identity
  · simp [identity]
  · cases root : (doc.rootPart game).field? key <;> simp [identity, stored]

instance : Decidable (doc.Hides game key) := decidable_of_iff _ hides_iff_rootPart.symm

theorem mem_hiddenKeys_iff (distinct : doc.keys.Nodup) : key ∈ doc.hiddenKeys ↔ doc.Hides game key := by
  rw [hides_iff_rootPart, has, field?_rootPart distinct, hiddenKeys]
  cases found : doc.payload? with
  | none => simp
  | some payload =>
      have present : doc.has key = (doc.field? key).isSome := rfl
      simp only [List.mem_filter, List.contains_iff_mem, List.mem_cons, ← has_iff_mem_keys, Option.any_some,
        bne_iff_ne, present]
      by_cases game : key = Field.game
      · simp [game]
      · by_cases payload : key = Field.payload <;> simp [game, payload]

theorem field?_canonical_of_visible {value : Value} (found : doc.payload? = some payload)
    (entry : payload.field? key = some value) (visible : ¬ doc.Hides game key) :
    (doc.canonical game true).field? key = some value := by
  have present : (doc.payload?.any fun payload => payload.has key) = true := by
    rw [found, Option.any_some, has, entry, Option.isSome_some]
  rw [hides_iff_rootPart, not_and] at visible
  obtain ⟨another, rootless⟩ := not_or.mp (visible present)
  have free : (doc.rootPart game).field? key = none := by simpa [has] using rootless
  rw [field?_canonical, free, found]
  simp [another, entry]

theorem nodup_hiddenKeys (regular : doc.Regular) : doc.hiddenKeys.Nodup := by
  unfold hiddenKeys
  cases found : doc.payload? with
  | none => exact List.nodup_nil
  | some payload => exact (regular.2 payload found).filter _

end GameLogs.Document
