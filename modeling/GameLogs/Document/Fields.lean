import GameLogs.Value
namespace GameLogs.Document

/-! The fields of a document. -/

def keys (doc : Document) : List String := Entries.keys doc

def field? (doc : Document) (key : String) : Option Value := Entries.item? doc key

def has (doc : Document) (key : String) : Bool := (doc.field? key).isSome

/-- The value of a field; a missing field reads as null. -/
def field (doc : Document) (key : String) : Value := (doc.field? key).getD .null

/-- Sets a field: in its place if the document has it, at the end otherwise. -/
def put (doc : Document) (key : String) (value : Value) : Document := Entries.put doc key value

def without (doc : Document) (key : String) : Document := Entries.remove doc key

/-- Gives a field another name.  A field that already has the new name keeps its place and takes the
value; otherwise the field moves to the end. -/
def rename (doc : Document) (former current : String) : Document :=
  match doc.field? former with
  | none => doc
  | some value => (doc.without former).put current value

variable {doc : Document} {key other : String} {value : Value}

theorem has_iff_mem_keys : doc.has key = true ↔ key ∈ doc.keys := by
  rw [has, Option.isSome_iff_ne_none, ne_eq, field?, Entries.item?_eq_none_iff,
    Classical.not_not, keys]

theorem field?_of_has (present : doc.has key = true) : doc.field? key = some (doc.field key) := by
  obtain ⟨value, stored⟩ := Option.isSome_iff_exists.mp present
  rw [field, stored, Option.getD_some]

@[simp] theorem field?_put_self : (doc.put key value).field? key = some value :=
  Entries.item?_put_self

theorem field?_put_of_ne (different : other ≠ key) :
    (doc.put key value).field? other = doc.field? other :=
  Entries.item?_put_of_ne different

theorem has_put :
    (doc.put key value).has other = (decide (other = key) || doc.has other) := by
  by_cases same : other = key
  · simp [has, same]
  · simp [has, field?_put_of_ne same, same]

end GameLogs.Document
