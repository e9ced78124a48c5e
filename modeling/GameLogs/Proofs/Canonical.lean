import GameLogs.Document.Canonical
namespace GameLogs.Document

/-! What the canonical form has under each key.

Its root part is what it has before anything of the payload is added; a field of the payload stands
where the root part has none.  Identity and game are settled by the heading.
-/

variable {doc fields : Document} {field : String × Value} {game : Value} {flatten : Bool} {key : String}

@[simp] theorem field?_nil : field? [] key = none := rfl

theorem field?_cons :
    field? (field :: fields) key = if field.1 = key then some field.2 else fields.field? key := rfl

/-- The canonical form of a document before anything of its payload is added. -/
def rootPart (doc : Document) (game : Value) : Document := doc.foldl addRootField (doc.heading game)

theorem field?_heading : (doc.heading game).field? key =
    if key = Field.identity then doc.field? Field.identity
    else if key = Field.game then some game else none := by
  have apart : Field.game ≠ Field.identity := by decide
  cases found : doc.field? Field.identity with
  | none => by_cases named : key = Field.identity <;> simp [heading, found, field?_cons, named, apart, eq_comm]
  | some identity => by_cases named : key = Field.identity <;> simp [heading, found, field?_cons, named, eq_comm]

theorem field?_addRootField_of_fixed (fixed : key ∈ [Field.identity, Field.payload, Field.game]) :
    (doc.addRootField field).field? key = doc.field? key := by
  unfold addRootField
  split
  case isTrue => rfl
  case isFalse copied =>
    have different : key ≠ field.1 := fun same => copied (same ▸ fixed)
    exact field?_put_of_ne different

theorem field?_addRootField_of_free (free : key ∉ [Field.identity, Field.payload, Field.game]) :
    (doc.addRootField field).field? key = if field.1 = key then some field.2 else doc.field? key := by
  by_cases same : field.1 = key
  · subst same
    rw [addRootField, if_neg free, field?_put_self, if_pos rfl]
  · rw [if_neg same, addRootField]
    split
    · rfl
    · exact field?_put_of_ne (Ne.symm same)

theorem field?_addRoot_of_fixed (fixed : key ∈ [Field.identity, Field.payload, Field.game]) :
    (fields.foldl addRootField doc).field? key = doc.field? key := by
  induction fields generalizing doc with
  | nil => rfl
  | cons field rest ih => rw [List.foldl_cons, ih, field?_addRootField_of_fixed fixed]

/-- Of fields with distinct keys each is there in the end. -/
theorem field?_addRoot_of_free (distinct : fields.keys.Nodup)
    (free : key ∉ [Field.identity, Field.payload, Field.game]) :
    (fields.foldl addRootField doc).field? key = (fields.field? key).or (doc.field? key) := by
  induction fields generalizing doc with
  | nil => rfl
  | cons field rest ih =>
      obtain ⟨first, later⟩ := List.nodup_cons.mp distinct
      rw [List.foldl_cons, ih later, field?_addRootField_of_free free, field?_cons]
      by_cases same : field.1 = key
      · have missing : field? rest key = none := Entries.item?_eq_none_iff.mpr (same ▸ first)
        simp [same, missing]
      · simp [same]

/-- With distinct keys in the root, the root part has the game and the fields of the root but the
payload. -/
theorem field?_rootPart (distinct : doc.keys.Nodup) : (doc.rootPart game).field? key =
    if key = Field.game then some game else if key = Field.payload then none else doc.field? key := by
  by_cases fixed : key ∈ [Field.identity, Field.payload, Field.game]
  · rw [rootPart, field?_addRoot_of_fixed fixed, field?_heading]
    simp only [List.mem_cons, List.not_mem_nil, or_false] at fixed
    rcases fixed with rfl | rfl | rfl <;> simp [Field.identity, Field.payload, Field.game]
  · rw [rootPart, field?_addRoot_of_free distinct fixed, field?_heading]
    simp only [List.mem_cons, List.not_mem_nil, or_false, not_or] at fixed
    simp [fixed]

theorem field?_addPayloadField : (doc.addPayloadField field).field? key =
    (doc.field? key).or (if key ≠ Field.identity ∧ field.1 = key then some field.2 else none) := by
  unfold addPayloadField
  by_cases same : field.1 = key
  · subst same
    cases present : doc.field? field.1 with
    | some stored => simp [has, present]
    | none =>
        by_cases identity : field.1 = Field.identity
        · rw [identity] at present
          simp [has, present, identity]
        · simp [has, present, identity]
  · split
    case isTrue => simp [same]
    case isFalse => simp [same, field?_put_of_ne (Ne.symm same)]

/-- What is added from a payload takes nothing from the document, and never is its identity. -/
theorem field?_addPayload : (fields.foldl addPayloadField doc).field? key =
    (doc.field? key).or (if key = Field.identity then none else fields.field? key) := by
  induction fields generalizing doc with
  | nil => simp
  | cons field rest ih =>
      rw [List.foldl_cons, ih, field?_addPayloadField, Option.or_assoc, field?_cons]
      by_cases identity : key = Field.identity
      · simp [identity]
      · by_cases same : field.1 = key <;> simp [identity, same]

theorem field?_canonical : (doc.canonical game flatten).field? key =
    ((doc.rootPart game).field? key).or
      (if flatten = true ∧ key ≠ Field.identity then doc.payload?.bind (·.field? key) else none) := by
  unfold canonical
  cases found : doc.payload? with
  | none => simp [rootPart]
  | some payload =>
      cases flatten with
      | false => simp [rootPart]
      | true =>
          simp only [if_true, field?_addPayload, rootPart]
          by_cases identity : key = Field.identity <;> simp [identity]

theorem field?_canonical_identity :
    (doc.canonical game flatten).field? Field.identity = doc.field? Field.identity := by
  simp [field?_canonical, rootPart, field?_addRoot_of_fixed, field?_heading]

theorem has_canonical_identity :
    (doc.canonical game flatten).has Field.identity = doc.has Field.identity := by
  rw [has, field?_canonical_identity, has]

theorem field_canonical_identity :
    (doc.canonical game flatten).field Field.identity = doc.field Field.identity := by
  rw [field, field?_canonical_identity, field]

theorem field?_canonical_game : (doc.canonical game flatten).field? Field.game = some game := by
  have apart : Field.game ≠ Field.identity := by decide
  simp [field?_canonical, rootPart, field?_addRoot_of_fixed, field?_heading, apart]

end GameLogs.Document
