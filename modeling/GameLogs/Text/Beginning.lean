namespace GameLogs.Text

/-! The beginning of a text. -/

def startsWith (text beginning : String) : Bool := beginning.toList.isPrefixOf text.toList

def after? (text beginning : String) : Option String :=
  if startsWith text beginning then some (String.ofList (text.toList.drop beginning.toList.length))
  else none

theorem startsWith_iff {text beginning : String} :
    startsWith text beginning = true ↔ ∃ rest, text = beginning ++ rest := by
  simp only [startsWith, List.isPrefixOf_iff_prefix]
  constructor
  · rintro ⟨rest, joined⟩
    exact ⟨String.ofList rest, by apply String.toList_injective; simp [joined]⟩
  · rintro ⟨rest, rfl⟩
    exact ⟨rest.toList, by simp⟩

theorem after?_eq_some_iff {text beginning rest : String} :
    after? text beginning = some rest ↔ text = beginning ++ rest := by
  constructor
  · intro found
    unfold after? at found
    split at found
    case isTrue starts =>
      obtain ⟨other, rfl⟩ := startsWith_iff.mp starts
      simp at found
      rw [found]
    case isFalse => cases found
  · rintro rfl
    simp [after?, startsWith]

theorem after?_eq_none_iff {text beginning : String} :
    after? text beginning = none ↔ startsWith text beginning = false := by
  simp [after?]

end GameLogs.Text
