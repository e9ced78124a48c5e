import GameLogs.Proofs.Classification
namespace GameLogs

/-! Reserved names and the names that a classification excludes.

Whether a name is reserved is asked without a classification, too.  The two tests differ only in the empty
name and in the bare prefix, which name no source although they are not reserved.
-/

theorem isReservedName_iff {name : String} : isReservedName name = true ↔
    name ∈ Schema.reserved ∨ ∃ rest, name = Schema.storePrefix ++ rest := by
  rw [isReservedName, Bool.or_eq_true, List.contains_iff_mem, Text.startsWith_iff]

theorem setAside_iff {name : String} : SetAside Schema.reserved Schema.logPrefix name ↔
    isReservedName name = true ∨ name = "" ∨ name = Schema.logPrefix := by
  rw [isReservedName_iff, SetAside]
  constructor
  · rintro (empty | known | stored | bare)
    · exact Or.inr (Or.inl empty)
    · exact Or.inl (Or.inl known)
    · exact Or.inl (Or.inr stored)
    · exact Or.inr (Or.inr bare)
  · rintro ((known | stored) | empty | bare)
    · exact Or.inr (Or.inl known)
    · exact Or.inr (Or.inr (Or.inl stored))
    · exact Or.inl empty
    · exact Or.inr (Or.inr (Or.inr bare))

namespace Classification

variable {names reserved : List String} {logPrefix : String} {first second source : Source}

theorem eq_of_name_eq (one : first ∈ (ofNames names reserved logPrefix).sources)
    (other : second ∈ (ofNames names reserved logPrefix).sources) (same : first.name = second.name) :
    first = second :=
  List.inj_on_of_nodup_map nodup_names_sources one other same

/-- Two sources share a game where one has the prefix before the name of the other, and that name does
not begin with the prefix itself. -/
theorem game_eq_game_iff (one : first ∈ (ofNames names reserved logPrefix).sources)
    (other : second ∈ (ofNames names reserved logPrefix).sources) (different : first ≠ second) :
    first.game = second.game ↔
      ∃ game, Text.startsWith game logPrefix = false ∧
        (first.name = logPrefix ++ game ∧ second.name = game ∨
          first.name = game ∧ second.name = logPrefix ++ game) := by
  have apart : first.name ≠ second.name := fun same => different (eq_of_name_eq one other same)
  constructor
  · intro shared
    refine ⟨second.game, ?_⟩
    rcases (game_eq_iff one).mp shared with nested | ⟨flat, bare⟩
    · rcases (game_eq_iff other).mp rfl with alsoNested | ⟨flat, bare⟩
      · exact absurd (nested.trans alsoNested.symm) apart
      · exact ⟨bare, Or.inl ⟨nested, flat⟩⟩
    · rcases (game_eq_iff other).mp rfl with nested | ⟨alsoFlat, _⟩
      · exact ⟨bare, Or.inr ⟨flat, nested⟩⟩
      · exact absurd (flat.trans alsoFlat.symm) apart
  · rintro ⟨game, bare, ⟨nested, flat⟩ | ⟨flat, nested⟩⟩
    · exact ((game_eq_iff one).mpr (Or.inl nested)).trans ((game_eq_iff other).mpr (Or.inr ⟨flat, bare⟩)).symm
    · exact ((game_eq_iff one).mpr (Or.inr ⟨flat, bare⟩)).trans ((game_eq_iff other).mpr (Or.inl nested)).symm

theorem not_reserved_of_mem_sources (member : source ∈ (ofNames names).sources) :
    isReservedName source.name = false := by
  have placed := (placement_of_mem_sources member).2
  rw [ne_eq, Placement.of_eq_excluded_iff, setAside_iff] at placed
  exact Bool.eq_false_iff.mpr fun known => placed (Or.inl known)

/-- Of the names of a list, those are excluded that are reserved, empty, or the bare prefix.  No source is
reserved, so that the target is none; and two sources have the same game only where one of them is called
by the game itself and the other by the prefix and the game. -/
theorem excludes_reserved (names : List String) :
    let classified := ofNames names
    (∀ name, name ∈ classified.excluded ↔
      name ∈ names ∧ (isReservedName name = true ∨ name = "" ∨ name = Schema.logPrefix)) ∧
    (∀ source ∈ classified.sources, isReservedName source.name = false) ∧
    (∀ source ∈ classified.sources, source.name ≠ Schema.target) ∧
    ∀ first ∈ classified.sources, ∀ second ∈ classified.sources, first ≠ second →
      (first.game = second.game ↔
        ∃ game, Text.startsWith game Schema.logPrefix = false ∧
          (first.name = Schema.logPrefix ++ game ∧ second.name = game ∨
            first.name = game ∧ second.name = Schema.logPrefix ++ game)) := by
  refine ⟨fun name => ?_, fun _ => not_reserved_of_mem_sources, fun _ => name_ne_target_of_mem_sources,
    fun _ one _ other => game_eq_game_iff one other⟩
  rw [mem_excluded_iff, Placement.of_eq_excluded_iff, setAside_iff]

/-- Three names of which each but the last is the next one behind the prefix, among excluded names. -/
def nestedNames : List String := ["go", "logs_", "logs_go", "system.views", "", "logs_logs_go", "logdata"]

theorem excludes_reserved_specimen :
    ⟨"logs_logs_go", "logs_go", true⟩ ∈ (ofNames nestedNames).sources ∧
      ⟨"logs_go", "go", true⟩ ∈ (ofNames nestedNames).sources ∧
      ⟨"go", "go", false⟩ ∈ (ofNames nestedNames).sources ∧
      isReservedName "go" = false ∧
      (∃ game, Text.startsWith game Schema.logPrefix = false ∧
        ("logs_go" = Schema.logPrefix ++ game ∧ "go" = game ∨
          "logs_go" = game ∧ "go" = Schema.logPrefix ++ game)) ∧
      ¬ ∃ game, Text.startsWith game Schema.logPrefix = false ∧
        ("logs_logs_go" = Schema.logPrefix ++ game ∧ "logs_go" = game ∨
          "logs_logs_go" = game ∧ "logs_go" = Schema.logPrefix ++ game) := by
  obtain ⟨_, free, _, shared⟩ := excludes_reserved nestedNames
  have twice : ⟨"logs_logs_go", "logs_go", true⟩ ∈ (ofNames nestedNames).sources := by decide
  have once : ⟨"logs_go", "go", true⟩ ∈ (ofNames nestedNames).sources := by decide
  have bare : ⟨"go", "go", false⟩ ∈ (ofNames nestedNames).sources := by decide
  refine ⟨twice, once, bare, free _ bare, (shared _ once _ bare (by decide)).mp rfl, fun joined => ?_⟩
  exact absurd ((shared _ twice _ once (by decide)).mpr joined) (by decide)

end Classification
end GameLogs
