import GameLogs.Value
namespace GameLogs

/-! Equality of values in the store.

The content of a value is what comparisons see of it: of numbers and truth values the exact
quantity, of documents the fields without their order.  A value that holds something that is no
number has no content and equals nothing, not even itself.
-/

/-- What comparisons see of a value. -/
inductive Content where
  | null
  | quantity (value : Rat)
  | infinity (negative : Bool)
  | string (text : String)
  | array (elements : List Content)
  /-- The fields of a document, ordered by key. -/
  | document (fields : List (String × Content))
  | objectId (hex : String)
  | date (milliseconds : Int)
  | binary (subtype : Nat) (bytes : List UInt8)
  | regex (pattern : String) (flags : Nat)
  | timestamp (time increment : Int)
  | decimal (text : String)
  | code (text : String)
  | minKey
  | maxKey

namespace Content

mutual

def same : Content → Content → Bool
  | .null, .null => true
  | .quantity a, .quantity b => a == b
  | .infinity a, .infinity b => a == b
  | .string a, .string b => a == b
  | .array a, .array b => sameElements a b
  | .document a, .document b => sameFields a b
  | .objectId a, .objectId b => a == b
  | .date a, .date b => a == b
  | .binary a s, .binary b t => a == b && s == t
  | .regex a s, .regex b t => a == b && s == t
  | .timestamp a s, .timestamp b t => a == b && s == t
  | .decimal a, .decimal b => a == b
  | .code a, .code b => a == b
  | .minKey, .minKey => true
  | .maxKey, .maxKey => true
  | _, _ => false

def sameElements : List Content → List Content → Bool
  | [], [] => true
  | a :: as, b :: bs => same a b && sameElements as bs
  | _, _ => false

def sameFields : List (String × Content) → List (String × Content) → Bool
  | [], [] => true
  | (k, a) :: as, (l, b) :: bs => k == l && same a b && sameFields as bs
  | _, _ => false

end

mutual

theorem eq_of_same : {a b : Content} → same a b = true → a = b := by
  intro a b agree
  cases a <;> cases b <;> simp_all [same]
  case array.array => exact eq_of_sameElements agree
  case document.document => exact eq_of_sameFields agree

theorem eq_of_sameElements : {a b : List Content} → sameElements a b = true → a = b := by
  intro a b agree
  match a, b with
  | [], [] => rfl
  | [], _ :: _ | _ :: _, [] => simp [sameElements] at agree
  | a :: as, b :: bs =>
      simp only [sameElements, Bool.and_eq_true] at agree
      rw [eq_of_same agree.1, eq_of_sameElements agree.2]

theorem eq_of_sameFields :
    {a b : List (String × Content)} → sameFields a b = true → a = b := by
  intro a b agree
  match a, b with
  | [], [] => rfl
  | [], _ :: _ | _ :: _, [] => simp [sameFields] at agree
  | (k, a) :: as, (l, b) :: bs =>
      simp only [sameFields, Bool.and_eq_true, beq_iff_eq] at agree
      rw [agree.1.1, eq_of_same agree.1.2, eq_of_sameFields agree.2]

end

mutual

theorem same_refl : (a : Content) → same a a = true := by
  intro a
  cases a <;> simp [same]
  case array elements => exact sameElements_refl elements
  case document fields => exact sameFields_refl fields

theorem sameElements_refl : (a : List Content) → sameElements a a = true := by
  intro a
  match a with
  | [] => rfl
  | a :: as => simp [sameElements, same_refl a, sameElements_refl as]

theorem sameFields_refl : (a : List (String × Content)) → sameFields a a = true := by
  intro a
  match a with
  | [] => rfl
  | (k, a) :: as => simp [sameFields, same_refl a, sameFields_refl as]

end

theorem same_iff_eq {a b : Content} : same a b = true ↔ a = b :=
  ⟨eq_of_same, fun equal => equal ▸ same_refl a⟩

instance : DecidableEq Content := fun _ _ => decidable_of_iff _ same_iff_eq

/-- Puts a field in front of the first field with a greater key. -/
def insertField (key : String) (content : Content) :
    List (String × Content) → List (String × Content)
  | [] => [(key, content)]
  | field :: rest =>
      if key < field.1 then (key, content) :: field :: rest
      else field :: insertField key content rest

end Content

namespace Double

/-- The content of a floating point number: the same for equal numbers of any kind. -/
def content? (d : Double) : Option Content :=
  if d.isNaN then none
  else if d.isInfinite then some (.infinity d.negative)
  else some (.quantity d.toRat)

end Double

namespace Value

mutual

/-- What comparisons see of a value, or nothing if it holds something that is no number. -/
def content? : Value → Option Content
  | .null => some .null
  | .bool value => some (.quantity (if value then 1 else 0))
  | .int value | .long value => some (.quantity value)
  | .double value => value.content?
  | .string text => some (.string text)
  | .array elements => (elementsContent? elements).map .array
  | .document fields => (fieldsContent? fields).map .document
  | .objectId hex => some (.objectId hex)
  | .date milliseconds => some (.date milliseconds)
  | .binary subtype bytes => some (.binary subtype bytes)
  | .regex pattern flags => some (.regex pattern flags)
  | .timestamp time increment => some (.timestamp time increment)
  | .decimal text => some (.decimal text)
  | .code text => some (.code text)
  | .minKey => some .minKey
  | .maxKey => some .maxKey

def elementsContent? : List Value → Option (List Content)
  | [] => some []
  | element :: rest =>
      match content? element, elementsContent? rest with
      | some content, some contents => some (content :: contents)
      | _, _ => none

def fieldsContent? : List (String × Value) → Option (List (String × Content))
  | [] => some []
  | (key, value) :: rest =>
      match content? value, fieldsContent? rest with
      | some content, some contents => some (Content.insertField key content contents)
      | _, _ => none

end

def equals (a b : Value) : Bool :=
  match a.content?, b.content? with
  | some a, some b => a.same b
  | _, _ => false

theorem equals_iff {a b : Value} :
    a.equals b = true ↔ ∃ content, a.content? = some content ∧ b.content? = some content := by
  unfold equals
  split
  case h_1 left right => simp only [Content.same_iff_eq]; grind
  case h_2 missing => grind

theorem equals_symm {a b : Value} (equal : a.equals b = true) : b.equals a = true := by
  obtain ⟨content, left, right⟩ := equals_iff.mp equal
  exact equals_iff.mpr ⟨content, right, left⟩

theorem equals_trans {a b c : Value} (first : a.equals b = true) (second : b.equals c = true) :
    a.equals c = true := by
  obtain ⟨content, left, middle⟩ := equals_iff.mp first
  obtain ⟨other, middle', right⟩ := equals_iff.mp second
  obtain rfl : content = other := Option.some.inj (middle.symm.trans middle')
  exact equals_iff.mpr ⟨content, left, right⟩

/-- A value equals itself exactly when it has a content. -/
theorem equals_self_iff {a : Value} : a.equals a = true ↔ a.content?.isSome = true := by
  rw [equals_iff, Option.isSome_iff_exists]
  exact ⟨fun ⟨content, found, _⟩ => ⟨content, found⟩, fun ⟨content, found⟩ => ⟨content, found, found⟩⟩

/-- Only a text equals a text: code does not, though it is a kind of text. -/
theorem eq_string_of_equals {value : Value} {text : String}
    (equal : value.equals (.string text) = true) : value = .string text := by
  obtain ⟨content, seen, same⟩ := equals_iff.mp equal
  obtain rfl : Content.string text = content := Option.some.inj same
  cases value with
  | string other =>
      obtain ⟨rfl⟩ := Content.string.inj (Option.some.inj seen)
      rfl
  | array elements => cases whole : elementsContent? elements <;> simp [content?, whole] at seen
  | document fields => cases whole : fieldsContent? fields <;> simp [content?, whole] at seen
  | double number =>
      simp only [content?, Double.content?] at seen
      split at seen
      · cases seen
      · split at seen <;> cases seen
  | _ => simp [content?] at seen

theorem equals_string {text other : String} :
    (Value.string text).equals (.string other) = decide (text = other) := by
  rw [Bool.eq_iff_iff, decide_eq_true_eq]
  constructor
  · intro equal
    exact Value.string.inj (eq_string_of_equals equal)
  · rintro rfl
    exact equals_self_iff.mpr rfl

end Value
end GameLogs
