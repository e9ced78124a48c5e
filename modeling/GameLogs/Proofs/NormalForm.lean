import GameLogs.Proofs.Entries
import GameLogs.Proofs.Layers
namespace GameLogs.Document

/-! Canonical forms of canonical forms.

Behind the heading of a canonical form no key of the heading comes again.  A form that has no payload of its
own is therefore read back as it stands, whatever game it is read under.
-/

variable {doc form fields : Document} {field : String × Value} {game other : Value} {flatten again : Bool}
  {key : String} {value : Value}

theorem payload?_of_missing (missing : doc.has Field.payload = false) : doc.payload? = none := by
  have unstored : doc.field? Field.payload = none := by simpa [has] using missing
  rw [payload?, Document.field, unstored]
  rfl

/-- The document with another game. -/
def withGame (doc : Document) (game : Value) : Document :=
  doc.map fun field => if field.1 = Field.game then (field.1, game) else field

theorem withGame_heading : (doc.heading game).withGame other = doc.heading other := by
  rw [heading_eq, heading_eq]
  cases doc.field? Field.identity <;> simp [withGame, Field.identity, Field.game]

theorem withGame_of_apart (apart : ∀ key ∈ doc.keys, key ≠ Field.game) : doc.withGame other = doc := by
  refine (List.map_congr_left fun field member => ?_).trans (List.map_id _)
  exact if_neg (apart field.1 (List.mem_map_of_mem member))

theorem withGame_heading_append (apart : ∀ key ∈ fields.keys, key ≠ Field.game) :
    withGame (doc.heading game ++ fields) other = doc.heading other ++ fields := by
  rw [withGame, List.map_append]
  exact congrArg₂ _ withGame_heading (withGame_of_apart apart)

/-- The heading of a document comes first, and no other field has one of its keys or that of an earlier
field. -/
structure HeadedBy (form doc : Document) (game : Value) : Prop where
  distinct : form.keys.Nodup
  behind : ∃ rest : Document, form = doc.heading game ++ rest ∧
    ∀ key ∈ rest.keys, key ≠ Field.identity ∧ key ≠ Field.game

namespace HeadedBy

theorem heading : (doc.heading game).HeadedBy doc game :=
  ⟨nodup_keys_heading, [], by simp, by simp [keys, Entries.keys]⟩

theorem has_game (headed : form.HeadedBy doc game) : form.has Field.game = true := by
  obtain ⟨rest, rfl, _⟩ := headed.behind
  rw [has_iff_mem_keys, keys_append, heading_eq, keys_append]
  simp [keys, Entries.keys]

theorem put (headed : form.HeadedBy doc game) (free : key ≠ Field.identity ∧ key ≠ Field.game) :
    (form.put key value).HeadedBy doc game := by
  refine ⟨Entries.nodup_keys_put headed.distinct, ?_⟩
  obtain ⟨rest, rfl, apart⟩ := headed.behind
  have missing : key ∉ (doc.heading game).keys := by
    intro stated
    rcases mem_keys_heading stated with same | same
    · exact free.1 same
    · exact free.2 same
  refine ⟨rest.put key value, Entries.put_append_of_not_mem missing, fun name member => ?_⟩
  rcases Entries.mem_keys_put.mp member with rfl | earlier
  · exact free
  · exact apart name earlier

theorem addRootField (headed : form.HeadedBy doc game) : (form.addRootField field).HeadedBy doc game := by
  unfold Document.addRootField
  split
  case isTrue => exact headed
  case isFalse copied =>
    simp only [List.mem_cons, List.not_mem_nil, or_false, not_or] at copied
    exact headed.put ⟨copied.1, copied.2.2⟩

theorem addPayloadField (headed : form.HeadedBy doc game) : (form.addPayloadField field).HeadedBy doc game := by
  unfold Document.addPayloadField
  split
  case isTrue => exact headed
  case isFalse copied =>
    simp only [Bool.or_eq_true, beq_iff_eq, not_or] at copied
    -- The game stands in the heading, so that its key is never free.
    have another : field.1 ≠ Field.game := fun same => copied.1 (same ▸ headed.has_game)
    exact headed.put ⟨copied.2, another⟩

theorem foldl {add : Document → String × Value → Document} (headed : form.HeadedBy doc game)
    (step : ∀ {form : Document} {field : String × Value}, form.HeadedBy doc game → (add form field).HeadedBy doc game) :
    (fields.foldl add form).HeadedBy doc game := by
  induction fields generalizing form with
  | nil => exact headed
  | cons field rest ih => exact ih (step headed)

theorem canonical : (doc.canonical game flatten).HeadedBy doc game := by
  have rooted : (doc.rootPart game).HeadedBy doc game := heading.foldl addRootField
  unfold Document.canonical
  split
  case h_1 payload _ =>
    split
    · exact rooted.foldl addPayloadField
    · exact rooted
  case h_2 => exact rooted

/-- Without a payload, reading a form again comes to another game in the place of the first. -/
theorem canonical_eq (headed : form.HeadedBy doc game) (same : form.field? Field.identity = doc.field? Field.identity)
    (bare : form.has Field.payload = false) : form.canonical other flatten = form.withGame other := by
  obtain ⟨rest, split, apart⟩ := headed.behind
  have titled : form.heading other = doc.heading other := by rw [heading_eq, heading_eq, same]
  have rooted : form.canonical other flatten = form.rootPart other := by
    rw [Document.canonical, payload?_of_missing bare]
    rfl
  have behind : ∀ key ∈ rest.keys, key ∉ [Field.identity, Field.payload, Field.game] := by
    intro key member
    have unpaid : key ≠ Field.payload := by
      rintro rfl
      have absent : Field.payload ∉ form.keys := by rw [← has_iff_mem_keys, bare]; exact Bool.false_ne_true
      rw [split, keys_append] at absent
      exact absent (List.mem_append_right _ member)
    simp [apart key member, unpaid]
  have parted : form.besides [Field.identity, Field.payload, Field.game] = rest := by
    rw [split, besides_append, besides_heading, besides_of_apart behind, List.nil_append]
  rw [rooted, rootPart_eq headed.distinct, titled, parted, split]
  exact (withGame_heading_append fun key member => (apart key member).2).symm

theorem withGame_self (headed : form.HeadedBy doc game) : form.withGame game = form := by
  obtain ⟨rest, rfl, apart⟩ := headed.behind
  exact withGame_heading_append fun key member => (apart key member).2

end HeadedBy

/-- A canonical form has a payload only if its document has, flattened, a payload in its payload.  One without
is a normal form: under any flag, reading it under its game gives it back with all its fields in their order,
and reading it under another game changes the value of the game alone. -/
theorem canonical_normal (doc : Document) (game flag : Value) :
    let form := doc.canonical game flag.truthy
    Argument.canonical (.document doc) game flag = .ok form ∧
      (form.has Field.payload = true ↔
        flag.truthy = true ∧ ∃ payload, doc.payload? = some payload ∧ payload.has Field.payload = true) ∧
      (form.has Field.payload = false → ∀ again : Value,
        Argument.canonical (.document form) game again = .ok form ∧
        ∀ other : Value, Argument.canonical (.document form) other again =
          .ok (form.map fun field => if field.1 = Field.game then (field.1, other) else field)) := by
  intro form
  refine ⟨rfl, has_canonical_payload, fun bare again => ?_⟩
  have headed : form.HeadedBy doc game := .canonical
  have reread : ∀ other, Argument.canonical (.document form) other again = .ok (form.withGame other) :=
    fun other => congrArg Except.ok (headed.canonical_eq field?_canonical_identity bare)
  refine ⟨?_, reread⟩
  rw [reread game, headed.withGame_self]

/-- The root names another game, and the payload has fields under the keys of the heading. -/
def normalSpecimen : Document :=
  [("score", .int 5), ("game", .string "go"), ("_id", .int 1),
    ("data", .document [("level", .int 2), ("_id", .int 9), ("game", .null), ("score", .int 7)])]

theorem canonical_normal_specimen :
    let form := normalSpecimen.canonical (.string "tetris") true
    form = [("_id", .int 1), ("game", .string "tetris"), ("score", .int 5), ("level", .int 2)] ∧
      form.has Field.payload = false ∧
      Argument.canonical (.document form) (.string "tetris") (.int 1) = .ok form ∧
      Argument.canonical (.document form) .null (.int 0) =
        .ok [("_id", .int 1), ("game", .null), ("score", .int 5), ("level", .int 2)] := by
  intro form
  have bare : form.has Field.payload = false := by decide
  obtain ⟨_, _, normal⟩ := canonical_normal normalSpecimen (.string "tetris") (.bool true)
  exact ⟨rfl, bare, (normal bare (.int 1)).1, (normal bare (.int 0)).2 .null⟩

end GameLogs.Document
