import GameLogs.Proofs.Layers
import Mathlib.Data.List.Basic
namespace GameLogs.Document

/-! Which fields of a payload can be seen in the canonical form.

Every field of a payload is either seen there with its value, or its key is hidden and the payload makes
no difference under it.
-/

variable {doc payload : Document} {game value : Value} {flatten : Bool} {key : String}

theorem hiddenKeys_eq : doc.hiddenKeys =
    (keys (doc.payload?.getD [])).filter fun key => decide (key ∈ doc.rootKeys) := by
  have named : Field.identity :: Field.game :: doc.keys.filter (· != Field.payload) = doc.rootKeys := by
    rw [rootKeys, without, keys, keys, Entries.keys_remove]
    congr 3
    funext key
    rw [Bool.eq_iff_iff, bne_iff_ne, decide_eq_true_eq]
  unfold hiddenKeys
  cases doc.payload? with
  | none => rfl
  | some payload => simp only [named, List.contains_eq_mem, Option.getD_some]

theorem length_visiblePart :
    doc.visiblePart.length + doc.hiddenKeys.length = (doc.payload?.getD []).length := by
  have hidden : doc.hiddenKeys.length =
      ((doc.payload?.getD []).filter fun field => decide (field.1 ∈ doc.rootKeys)).length := by
    rw [hiddenKeys_eq, keys, Entries.keys, List.filter_map, List.length_map]
    rfl
  rw [hidden, visiblePart, besides, Nat.add_comm]
  simpa using (List.length_eq_length_filter_add (l := doc.payload?.getD [])
    fun field => decide (field.1 ∈ doc.rootKeys)).symm

theorem length_canonical (regular : doc.Regular) :
    (doc.canonical game true).length + doc.hiddenKeys.length =
      ((doc.without Field.payload).canonical game true).length + (doc.payload?.getD []).length := by
  rw [canonical_eq regular, canonical_without_payload, if_pos rfl, List.length_append, Nat.add_assoc,
    length_visiblePart]

theorem mem_hiddenKeys_iff_agree (distinct : doc.keys.Nodup) : key ∈ doc.hiddenKeys ↔
    key ∈ keys (doc.payload?.getD []) ∧
      (doc.canonical game true).field? key =
        ((doc.without Field.payload).canonical game true).field? key := by
  have present : (∃ payload, doc.payload? = some payload ∧ payload.has key = true) ↔
      key ∈ keys (doc.payload?.getD []) := by
    rw [← has_iff_mem_keys]
    cases doc.payload? <;> simp [has]
  rw [mem_hiddenKeys_iff distinct, Hides, present]

/-- The hidden keys are those of the payload, in its order and without repetition, under which the
canonical form is the same without the payload: it has no field there or the same one.  Under every other
key of the payload it has what the payload has.  It therefore has as many fields as without the payload,
and as many more as the payload has fields that are not hidden. -/
theorem hiddenKeys_exact (regular : doc.Regular) (game : Value) :
    let payload := doc.payload?.getD []
    let form := doc.canonical game true
    let bare := (doc.without Field.payload).canonical game true
    doc.hiddenKeys.Sublist (keys payload) ∧ doc.hiddenKeys.Nodup ∧
      (∀ key, key ∈ doc.hiddenKeys ↔ key ∈ keys payload ∧ form.field? key = bare.field? key) ∧
      (∀ key value, field? payload key = some value → key ∉ doc.hiddenKeys →
        form.field? key = some value) ∧
      form.length + doc.hiddenKeys.length = bare.length + payload.length := by
  refine ⟨?_, nodup_hiddenKeys regular, fun key => mem_hiddenKeys_iff_agree regular.1, ?_,
    length_canonical regular⟩
  · rw [hiddenKeys_eq]
    exact List.filter_sublist
  · intro key value entry visible
    cases found : doc.payload? with
    | none =>
        rw [found] at entry
        cases entry
    | some payload =>
        rw [found] at entry
        rw [mem_hiddenKeys_iff regular.1] at visible
        exact field?_canonical_of_visible found entry visible

/-- A root without identity and without game, and a payload that has both, a key of the root, and its
own key. -/
def rootlessSpecimen : Document :=
  [("score", .null),
    ("data", .document [("level", .int 2), ("_id", .int 9), ("score", .int 7), ("data", .int 3),
      ("game", .string "go")])]

theorem hiddenKeys_exact_specimen :
    rootlessSpecimen.Regular ∧ rootlessSpecimen.hiddenKeys = ["_id", "score", "game"] ∧
      rootlessSpecimen.hiddenKeys.Nodup ∧
      (rootlessSpecimen.canonical (.string "tetris") true).field? "_id" =
        ((rootlessSpecimen.without Field.payload).canonical (.string "tetris") true).field? "_id" ∧
      (rootlessSpecimen.canonical (.string "tetris") true).field? "data" = some (.int 3) ∧
      (rootlessSpecimen.canonical (.string "tetris") true).length + 3 = 2 + 5 := by
  have regular : rootlessSpecimen.Regular := by decide
  obtain ⟨_, distinct, hidden, visible, counted⟩ := hiddenKeys_exact regular (.string "tetris")
  have identity : "_id" ∈ rootlessSpecimen.hiddenKeys := by decide
  exact ⟨regular, by decide, distinct, ((hidden "_id").mp identity).2,
    visible "data" (.int 3) rfl (by decide), counted⟩

end GameLogs.Document
