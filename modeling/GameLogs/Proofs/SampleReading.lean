import GameLogs.Proofs.JsonReading
import GameLogs.Proofs.Samples
namespace GameLogs

/-! Exported samples are read back.

Values for which JSON has forms of its own are written in these forms.  Reading the text of a sample gives them
again, with all elements and keys in their order.
-/

namespace Value

mutual

/-- Whether a value is built of null, truth values, whole numbers and texts alone. -/
def isPlain : Value → Bool
  | .null | .bool _ | .int _ | .long _ | .string _ => true
  | .array elements => elementsPlain elements
  | .document fields => fieldsPlain fields
  | _ => false

def elementsPlain : List Value → Bool
  | [] => true
  | element :: rest => isPlain element && elementsPlain rest

def fieldsPlain : List (String × Value) → Bool
  | [] => true
  | (_, value) :: rest => isPlain value && fieldsPlain rest

end

mutual

/-- Whether JSON says what a value is, in the same order. -/
def Matches : Value → Json → Prop
  | .null, .null => True
  | .bool value, .bool other => value = other
  | .int value, .integer other | .long value, .integer other => value = other
  | .string text, .string other => text = other
  | .array elements, .array others => ElementsMatch elements others
  | .document fields, .object members => FieldsMatch fields members
  | _, _ => False

def ElementsMatch : List Value → List Json → Prop
  | [], [] => True
  | element :: rest, other :: others => Matches element other ∧ ElementsMatch rest others
  | _, _ => False

def FieldsMatch : List (String × Value) → List (String × Json) → Prop
  | [], [] => True
  | (key, value) :: rest, (name, other) :: others => key = name ∧ Matches value other ∧ FieldsMatch rest others
  | _, _ => False

end

mutual

theorem matches_toJson : (value : Value) → value.isPlain = true → value.Matches value.toJson ∧ value.toJson.isWhole = true
  | .null, _ | .bool _, _ | .int _, _ | .long _, _ | .string _, _ => by simp [toJson, Matches, Json.isWhole]
  | .array elements, plain => by
      rw [isPlain] at plain
      rw [toJson, Matches, Json.isWhole]
      exact elementsMatch_elementsJson elements plain
  | .document fields, plain => by
      rw [isPlain] at plain
      rw [toJson, Matches, Json.isWhole]
      exact fieldsMatch_fieldsJson fields plain

theorem elementsMatch_elementsJson : (elements : List Value) → elementsPlain elements = true →
    ElementsMatch elements (elementsJson elements) ∧ Json.elementsWhole (elementsJson elements) = true
  | [], _ => ⟨trivial, rfl⟩
  | element :: rest, plain => by
      rw [elementsPlain, Bool.and_eq_true] at plain
      obtain ⟨same, whole⟩ := matches_toJson element plain.1
      obtain ⟨others, wholes⟩ := elementsMatch_elementsJson rest plain.2
      rw [elementsJson, ElementsMatch, Json.elementsWhole, whole, wholes]
      exact ⟨⟨same, others⟩, rfl⟩

theorem fieldsMatch_fieldsJson : (fields : List (String × Value)) → fieldsPlain fields = true →
    FieldsMatch fields (fieldsJson fields) ∧ Json.membersWhole (fieldsJson fields) = true
  | [], _ => ⟨trivial, rfl⟩
  | (key, value) :: rest, plain => by
      rw [fieldsPlain, Bool.and_eq_true] at plain
      obtain ⟨same, whole⟩ := matches_toJson value plain.1
      obtain ⟨others, wholes⟩ := fieldsMatch_fieldsJson rest plain.2
      rw [fieldsJson, FieldsMatch, Json.membersWhole, whole, wholes]
      exact ⟨⟨rfl, same, others⟩, rfl⟩

end

variable {elements : List Value} {docs : List Document}

theorem elementsPlain_eq_all : elementsPlain elements = elements.all isPlain := by
  induction elements with
  | nil => rfl
  | cons element rest ih => rw [elementsPlain, List.all_cons, ih]

theorem elementsJson_eq_map : elementsJson elements = elements.map toJson := by
  induction elements with
  | nil => rfl
  | cons element rest ih => rw [elementsJson, List.map_cons, ih]

/-- Documents are written like an array of them. -/
theorem documentsJson_eq : documentsJson docs = (array (docs.map document)).toJson := by
  rw [documentsJson, toJson, elementsJson_eq_map, List.map_map]
  rfl

end Value

namespace Sample

variable {directory file : FilePath} {workspace : Workspace} {call : Call} {docs : List Document}

/-- The text of plain documents is JSON for the array of these documents. -/
theorem read?_content (plain : ∀ doc ∈ docs, (Value.document doc).isPlain = true) :
    ∃ json, Json.read? (content docs) = some json ∧ (Value.array (docs.map Value.document)).Matches json := by
  have plainArray : (Value.array (docs.map Value.document)).isPlain = true := by
    rw [Value.isPlain, Value.elementsPlain_eq_all, List.all_map]
    exact List.all_eq_true.mpr plain
  obtain ⟨same, whole⟩ := Value.matches_toJson _ plainArray
  exact ⟨_, by rw [content, Value.documentsJson_eq, Json.read?_render whole], same⟩

/-- Whenever a call returns a path and the documents that it selects are plain, the file at this path holds JSON
for exactly the array of these documents, with every key and every value in its place. -/
theorem exported_sample_reads_back (plain : ∀ doc ∈ call.selected, (Value.document doc).isPlain = true)
    (returned : (call.run directory workspace).result = .ok (some file)) :
    ∃ text json, (call.run directory workspace).state.files.read? file = some text ∧
      Json.read? text = some json ∧ (Value.array (call.selected.map Value.document)).Matches json := by
  obtain ⟨opened, unfailing, rfl⟩ := Call.run_eq_path_iff.mp returned
  obtain ⟨_, made, _, _, _, stored⟩ := (@Call.ends_run directory call workspace).files_of_opened opened
  obtain ⟨json, read, same⟩ := read?_content plain
  rw [Call.arriving_of_unfailing unfailing] at stored
  exact ⟨content call.selected, json, stored, read, same⟩

/-- Two documents of a game with quotes, controls and other alphabets in their texts, and empty parts. -/
def nestedSpecimen : List Document :=
  [[("_id", .long 36893488147419103232), ("game", .string "ajedrez"),
      ("data", .document [("a \"b\" \\", .array [.int (-17), .null, .array [], .document []]), ("", .bool true)])],
    [("game", .string "ajedrez"), ("título", .string "línea 1\nlínea 2\t\u0001 ♞")]]

def callSpecimen : Call where
  database := ⟨[("logdata", .ofDocuments ([("_id", .int 1)] :: nestedSpecimen))]⟩
  failures := []
  collection := "logdata"
  game := "ajedrez"
  limit := 5

theorem exported_sample_reads_back_specimen :
    let outcome := callSpecimen.run ["samples"] ⟨.empty, [], 0⟩
    (∀ doc ∈ callSpecimen.selected, (Value.document doc).isPlain = true) ∧
      outcome.result = .ok (some (path ["samples"] "ajedrez")) ∧
      ∃ text json, outcome.state.files.read? (path ["samples"] "ajedrez") = some text ∧
        Json.read? text = some json ∧ (Value.array (nestedSpecimen.map Value.document)).Matches json := by
  intro outcome
  have plain : ∀ doc ∈ callSpecimen.selected, (Value.document doc).isPlain = true := by decide
  obtain ⟨file, returned⟩ : ∃ file, outcome.result = .ok (some file) := ⟨_, rfl⟩
  obtain ⟨_, _, rfl⟩ := Call.run_eq_path_iff.mp returned
  exact ⟨plain, returned, exported_sample_reads_back plain returned⟩

end Sample
end GameLogs
