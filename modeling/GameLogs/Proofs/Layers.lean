import GameLogs.Argument.Document
import GameLogs.Proofs.Hidden
import Mathlib.Data.List.Induction
namespace GameLogs.Document

/-! The canonical form field by field.

It is made of four layers: the identity, the game, the fields of the root, and those fields of a
flattened payload whose keys the root leaves free.  Each layer keeps the order that its fields had, and
no key is in two layers.
-/

variable {doc start fields : Document} {game : Value} {flatten : Bool} {key : String}
  {names others : List String}

/-- The fields whose keys are not among some, in their order. -/
def besides (doc : Document) (names : List String) : Document :=
  doc.filter fun field => decide (field.1 ∉ names)

/-- The keys that a payload cannot bring: those of the heading and those of the root but the payload. -/
def rootKeys (doc : Document) : List String :=
  Field.identity :: Field.game :: (doc.without Field.payload).keys

theorem keys_append : keys (doc ++ fields) = doc.keys ++ fields.keys := List.map_append

theorem keys_besides : (doc.besides names).keys = doc.keys.filter fun key => decide (key ∉ names) := by
  simp [keys, Entries.keys, besides, List.filter_map, Function.comp_def]

theorem mem_keys_besides : key ∈ (doc.besides names).keys ↔ key ∈ doc.keys ∧ key ∉ names := by
  rw [keys_besides, List.mem_filter, decide_eq_true_eq]

theorem besides_append : (doc ++ fields).besides names = doc.besides names ++ fields.besides names :=
  List.filter_append ..

theorem besides_of_apart (apart : ∀ key ∈ fields.keys, key ∉ names) : fields.besides names = fields := by
  refine List.filter_eq_self.mpr fun field member => ?_
  simpa using apart field.1 (List.mem_map_of_mem member)

theorem nodup_keys_besides (distinct : doc.keys.Nodup) : (doc.besides names).keys.Nodup := by
  rw [keys_besides]
  exact distinct.filter _

theorem besides_congr (same : ∀ key, key ∈ names ↔ key ∈ others) : doc.besides names = doc.besides others := by
  simp only [besides, same]

theorem mem_rootKeys : key ∈ doc.rootKeys ↔
    key = Field.identity ∨ key = Field.game ∨ key ∈ doc.keys ∧ key ≠ Field.payload := by
  simp [rootKeys, without, keys, Entries.keys_remove]

/-- Fields with distinct keys that are appended or left out one by one, as their keys tell. -/
private theorem foldl_add {add : Document → String × Value → Document} (distinct : fields.keys.Nodup)
    (step : ∀ (added : Document) (field : String × Value), field.1 ∉ added.keys →
      add (start ++ added) field = if field.1 ∈ names then start ++ added else start ++ added ++ [field]) :
    fields.foldl add start = start ++ fields.besides names := by
  -- The last field meets the start and what has been added, and its key is not among the latter.
  induction fields using List.reverseRecOn with
  | nil => simp [besides]
  | append_singleton earlier field ih =>
      rw [keys_append] at distinct
      obtain ⟨before, _, apart⟩ := List.nodup_append.mp distinct
      have fresh : field.1 ∉ (besides earlier names).keys := fun added =>
        apart field.1 (mem_keys_besides.mp added).1 field.1 (List.mem_singleton_self _) rfl
      rw [List.foldl_append, ih before, List.foldl_cons, List.foldl_nil, step _ _ fresh]
      split
      case isTrue left => simp [besides, left]
      case isFalse appended => simp [besides, appended]

theorem heading_eq : doc.heading game =
    (doc.field? Field.identity).toList.map (Prod.mk Field.identity) ++ [(Field.game, game)] := by
  unfold heading
  cases doc.field? Field.identity <;> rfl

theorem mem_keys_heading (member : key ∈ (doc.heading game).keys) : key = Field.identity ∨ key = Field.game := by
  rw [heading_eq] at member
  cases found : doc.field? Field.identity <;> simp_all [keys, Entries.keys]

theorem nodup_keys_heading : (doc.heading game).keys.Nodup := by
  rw [heading_eq]
  cases doc.field? Field.identity <;> simp [keys, Entries.keys, Field.identity, Field.game]

theorem besides_heading : (doc.heading game).besides [Field.identity, Field.payload, Field.game] = [] := by
  refine List.filter_eq_nil_iff.mpr fun field member => ?_
  rcases mem_keys_heading (List.mem_map_of_mem member) with same | same <;> simp [same]

theorem rootPart_eq (distinct : doc.keys.Nodup) : doc.rootPart game =
    doc.heading game ++ doc.besides [Field.identity, Field.payload, Field.game] := by
  refine foldl_add distinct fun added field fresh => ?_
  rw [addRootField]
  split
  case isTrue => rfl
  case isFalse copied =>
    have missing : field.1 ∉ keys (doc.heading game ++ added) := by
      rw [keys_append, List.mem_append]
      rintro (stated | known)
      · rcases mem_keys_heading stated with same | same <;> simp [same] at copied
      · exact fresh known
    exact Entries.put_of_not_mem missing

theorem foldl_addPayloadField (distinct : fields.keys.Nodup) :
    fields.foldl addPayloadField start = start ++ fields.besides (Field.identity :: start.keys) := by
  refine foldl_add distinct fun added field fresh => ?_
  have present : has (start ++ added) field.1 = decide (field.1 ∈ start.keys) := by
    rw [Bool.eq_iff_iff, has_iff_mem_keys, keys_append, List.mem_append, decide_eq_true_eq]
    exact or_iff_left fresh
  rw [addPayloadField, present]
  by_cases stated : field.1 ∈ start.keys
  · simp [stated]
  · by_cases identity : field.1 = Field.identity
    · simp [identity]
    · have missing : field.1 ∉ keys (start ++ added) := by
        rw [keys_append, List.mem_append]
        exact not_or.mpr ⟨stated, fresh⟩
      simp only [stated, identity, decide_false, Bool.false_or, beq_iff_eq, if_false, List.mem_cons, or_self]
      exact Entries.put_of_not_mem missing

theorem mem_keys_rootPart (distinct : doc.keys.Nodup) :
    key = Field.identity ∨ key ∈ (doc.rootPart game).keys ↔ key ∈ doc.rootKeys := by
  rw [mem_rootKeys, ← has_iff_mem_keys, has, field?_rootPart distinct, ← has_iff_mem_keys, has]
  by_cases game : key = Field.game
  · simp [game]
  · by_cases payload : key = Field.payload <;> simp [game, payload]

/-- The part of a payload that enters the canonical form. -/
def visiblePart (doc : Document) : Document := (doc.payload?.getD []).besides doc.rootKeys

theorem canonical_eq (regular : doc.Regular) :
    doc.canonical game flatten = doc.rootPart game ++ if flatten then doc.visiblePart else [] := by
  obtain ⟨distinct, payloads⟩ := regular
  rw [canonical, visiblePart]
  cases found : doc.payload? with
  | none => simp [rootPart, besides]
  | some payload =>
      cases flatten with
      | false => simp [rootPart]
      | true =>
          have names : ∀ key, key ∈ Field.identity :: (doc.rootPart game).keys ↔ key ∈ doc.rootKeys := by
            intro key
            rw [List.mem_cons]
            exact mem_keys_rootPart distinct
          have added := @foldl_addPayloadField (doc.rootPart game) payload (payloads payload found)
          rw [besides_congr names] at added
          exact added

theorem nodup_keys_canonical (regular : doc.Regular) : (doc.canonical game flatten).keys.Nodup := by
  have rooted : (doc.rootPart game).keys.Nodup := by
    rw [rootPart_eq regular.1, keys_append, List.nodup_append]
    refine ⟨nodup_keys_heading, nodup_keys_besides regular.1, ?_⟩
    intro key stated other copied same
    subst same
    have free := (mem_keys_besides.mp copied).2
    rcases mem_keys_heading stated with same | same <;> simp [same] at free
  rw [canonical_eq regular]
  cases flatten with
  | false => simpa using rooted
  | true =>
      have brought : doc.visiblePart.keys.Nodup := by
        apply nodup_keys_besides
        cases found : doc.payload? with
        | none => exact List.nodup_nil
        | some payload => exact regular.2 payload found
      rw [if_pos rfl, keys_append, List.nodup_append]
      refine ⟨rooted, brought, ?_⟩
      intro key stated other visible same
      subst same
      exact (mem_keys_besides.mp visible).2 ((mem_keys_rootPart regular.1).mp (Or.inr stated))

theorem has_canonical_payload : (doc.canonical game flatten).has Field.payload = true ↔
    flatten = true ∧ ∃ payload, doc.payload? = some payload ∧ payload.has Field.payload = true := by
  have bare : (doc.rootPart game).field? Field.payload = none := by
    rw [rootPart, field?_addRoot_of_fixed (by simp), field?_heading]
    rfl
  have apart : Field.payload ≠ Field.identity := by decide
  rw [has, field?_canonical, bare, Option.none_or]
  cases flatten with
  | false => simp
  | true => cases doc.payload? <;> simp [apart, has]

/-- The canonical form of a document under any flag: the identity that the root has, if it has one; the
game; the other fields of the root but the payload, in their order; and, if the flag holds and the payload
is a document, those of its fields whose keys are neither identity nor game nor those of another field of
the root, in their order.  Its keys are distinct, and the key of the payload is there only if the payload
has it. -/
theorem canonical_layered (regular : doc.Regular) (game flag : Value) :
    let form := doc.canonical game flag.truthy
    Argument.canonical (.document doc) game flag = .ok form ∧
      form = (doc.field? Field.identity).toList.map (Prod.mk Field.identity) ++ [(Field.game, game)] ++
        doc.besides [Field.identity, Field.payload, Field.game] ++
        (if flag.truthy then (doc.payload?.getD []).besides doc.rootKeys else []) ∧
      form.keys.Nodup ∧
      (form.has Field.payload = true ↔
        flag.truthy = true ∧ ∃ payload, doc.payload? = some payload ∧ payload.has Field.payload = true) := by
  refine ⟨rfl, ?_, nodup_keys_canonical regular, has_canonical_payload⟩
  rw [canonical_eq regular, rootPart_eq regular.1, heading_eq]
  rfl

/-- The identity and the game stand behind other fields, and the payload has fields under the keys of
both, under a key of the root, and under its own. -/
def layeredSpecimen : Document :=
  [("score", .int 5), ("_id", .int 1),
    ("data", .document [("level", .int 2), ("_id", .int 9), ("score", .int 7), ("data", .int 3),
      ("game", .string "go")]),
    ("game", .null), ("playerId", .string "p")]

theorem canonical_layered_specimen :
    layeredSpecimen.Regular ∧
      Argument.canonical (.document layeredSpecimen) (.string "tetris") (.array [.null]) =
        .ok [("_id", .int 1), ("game", .string "tetris"), ("score", .int 5), ("playerId", .string "p"),
          ("level", .int 2), ("data", .int 3)] ∧
      (layeredSpecimen.canonical (.string "tetris") true).keys.Nodup ∧
      (layeredSpecimen.canonical (.string "tetris") true).has Field.payload = true := by
  have regular : layeredSpecimen.Regular := by decide
  obtain ⟨formed, layers, distinct, nested⟩ :=
    canonical_layered regular (.string "tetris") (.array [.null])
  refine ⟨regular, formed.trans (congrArg Except.ok layers), distinct, nested.mpr ⟨rfl, _, rfl, by decide⟩⟩

end GameLogs.Document
