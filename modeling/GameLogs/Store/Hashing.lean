import GameLogs.Value.Content
namespace GameLogs

/-! Stores that look identities up by a hash.

Arrays and documents never have a hash.  Which other values have none is the store's own, as long as equal
values are treated alike.
-/

structure Hashing where
  /-- What is said of a value that has no hash. -/
  refusal? : Value → Option String
  arrays : ∀ elements, (refusal? (.array elements)).isSome = true
  documents : ∀ fields, (refusal? (.document fields)).isSome = true
  respects : ∀ {a b}, a.equals b = true → refusal? a = refusal? b

def unhashableText (kind : String) : String := s!"unhashable type: '{kind}'"

def Value.standardRefusal? : Value → Option String
  | .array _ => some (unhashableText "list")
  | .document _ => some (unhashableText "dict")
  | .regex _ _ => some (unhashableText "Regex")
  | .code _ => some (unhashableText "Code")
  | _ => none

/-- The same, told by what comparisons see of a value. -/
def Content.standardRefusal? : Content → Option String
  | .array _ => some (unhashableText "list")
  | .document _ => some (unhashableText "dict")
  | .regex _ _ => some (unhashableText "Regex")
  | .code _ => some (unhashableText "Code")
  | _ => none

theorem Value.standardRefusal?_eq {value : Value} {content : Content} (seen : value.content? = some content) :
    value.standardRefusal? = content.standardRefusal? := by
  cases value with
  | array elements =>
      obtain ⟨contents, _, rfl⟩ := Option.map_eq_some_iff.mp seen
      rfl
  | document fields =>
      obtain ⟨contents, _, rfl⟩ := Option.map_eq_some_iff.mp seen
      rfl
  | double number =>
      simp only [content?, Double.content?] at seen
      split at seen
      · cases seen
      · split at seen <;> cases seen <;> rfl
  | _ =>
      cases seen
      rfl

/-- Arrays, documents, patterns and code have no hash. -/
def Hashing.standard : Hashing where
  refusal? := Value.standardRefusal?
  arrays _ := rfl
  documents _ := rfl
  respects equal := by
    obtain ⟨content, left, right⟩ := Value.equals_iff.mp equal
    rw [Value.standardRefusal?_eq left, Value.standardRefusal?_eq right]

end GameLogs
