import GameLogs.Classification
namespace GameLogs

/-! The group of a single name.

The three groups exclude each other, and which one a name belongs to can be said of the name alone: it is
set aside, or it begins with the prefix of nested documents, or neither.
-/

/-- A name that is empty, reserved, used by the store itself, or the bare prefix names no source. -/
def SetAside (reserved : List String) (logPrefix name : String) : Prop :=
  name = "" ∨ name ∈ reserved ∨ (∃ rest, name = Schema.storePrefix ++ rest) ∨ name = logPrefix

namespace Placement

variable {reserved : List String} {logPrefix name game : String}

/-- The first test excludes a name; what is left is settled by what follows the prefix. -/
theorem of_cases :
    (Placement.of reserved logPrefix name = .excluded ∧ SetAside reserved logPrefix name) ∨
      (∃ game, Placement.of reserved logPrefix name = .prefixed game ∧ name = logPrefix ++ game ∧
        ¬ SetAside reserved logPrefix name) ∨
      (Placement.of reserved logPrefix name = .raw ∧ (¬ ∃ rest, name = logPrefix ++ rest) ∧
        ¬ SetAside reserved logPrefix name) := by
  unfold Placement.of
  split
  case isTrue barred =>
    refine Or.inl ⟨rfl, ?_⟩
    rcases barred with empty | known | stored
    · exact Or.inl empty
    · exact Or.inr (Or.inl known)
    · exact Or.inr (Or.inr (Or.inl (Text.startsWith_iff.mp stored)))
  case isFalse admitted =>
    have aside : name ≠ logPrefix → ¬ SetAside reserved logPrefix name := by
      rintro different (empty | known | stored | bare)
      · exact admitted (Or.inl empty)
      · exact admitted (Or.inr (Or.inl known))
      · exact admitted (Or.inr (Or.inr (Text.startsWith_iff.mpr stored)))
      · exact different bare
    cases found : Text.after? name logPrefix with
    | none =>
        rw [Text.after?_eq_none_iff, Bool.eq_false_iff, ne_eq, Text.startsWith_iff] at found
        exact Or.inr (Or.inr ⟨rfl, found, aside fun bare => found ⟨"", by simp [bare]⟩⟩)
    | some game =>
        have joined := Text.after?_eq_some_iff.mp found
        by_cases empty : game = ""
        · subst empty
          exact Or.inl ⟨rfl, Or.inr (Or.inr (Or.inr (by simpa using joined)))⟩
        · refine Or.inr (Or.inl ⟨game, by simp [empty], joined, aside ?_⟩)
          rw [joined, ne_eq, String.append_eq_left_iff]
          exact empty

theorem of_eq_excluded_iff :
    Placement.of reserved logPrefix name = .excluded ↔ SetAside reserved logPrefix name := by
  rcases @of_cases reserved logPrefix name with ⟨placed, aside⟩ | ⟨game, placed, _, apart⟩ | ⟨placed, _, apart⟩
  · simp [placed, aside]
  · simp [placed, apart]
  · simp [placed, apart]

theorem of_eq_prefixed_iff : Placement.of reserved logPrefix name = .prefixed game ↔
    ¬ SetAside reserved logPrefix name ∧ name = logPrefix ++ game := by
  rcases @of_cases reserved logPrefix name with ⟨placed, aside⟩ | ⟨own, placed, rfl, apart⟩ | ⟨placed, bare, _⟩
  · simp [placed, aside]
  · simp [placed, apart]
  · rw [placed]
    exact ⟨nofun, fun ⟨_, joined⟩ => absurd ⟨game, joined⟩ bare⟩

theorem of_eq_raw_iff : Placement.of reserved logPrefix name = .raw ↔
    ¬ SetAside reserved logPrefix name ∧ ¬ ∃ rest, name = logPrefix ++ rest := by
  rcases @of_cases reserved logPrefix name with ⟨placed, aside⟩ | ⟨game, placed, joined, _⟩ | ⟨placed, bare, apart⟩
  · simp [placed, aside]
  · rw [placed]
    exact ⟨nofun, fun ⟨_, bare⟩ => absurd ⟨game, joined⟩ bare⟩
  · simp only [placed, apart, bare, not_false_eq_true, and_self]

theorem game_ne_empty (apart : ¬ SetAside reserved logPrefix name) (joined : name = logPrefix ++ game) :
    game ≠ "" := by
  rintro rfl
  exact apart (Or.inr (Or.inr (Or.inr (by simpa using joined))))

end Placement
end GameLogs
