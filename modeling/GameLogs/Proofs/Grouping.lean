import GameLogs.Proofs.Classification
import Mathlib.Data.List.Dedup
namespace GameLogs.Classification

/-! The three groups of a list of names.

Every name of the list is in one of them, once, and nothing else is.  The group is that of the name alone,
and the groups are in order, so that nothing shows in them but which names the list has.
-/

variable {names others reserved : List String} {logPrefix : String}

/-- A classification that divides the names of a list into three groups in ascending order. -/
structure Divides (names reserved : List String) (logPrefix : String) (classified : Classification) :
    Prop where
  once : (classified.excluded ++ classified.prefixed.map Source.name ++
    classified.raw.map Source.name).Perm names.dedup
  excluded : ∀ name, name ∈ classified.excluded ↔ name ∈ names ∧ SetAside reserved logPrefix name
  prefixed : ∀ source, source ∈ classified.prefixed ↔
    source.name ∈ names ∧ ¬ SetAside reserved logPrefix source.name ∧
      source.name = logPrefix ++ source.game ∧ source.game ≠ "" ∧ source.flatten = true
  raw : ∀ source, source ∈ classified.raw ↔
    source.name ∈ names ∧ ¬ SetAside reserved logPrefix source.name ∧
      (¬ ∃ rest, source.name = logPrefix ++ rest) ∧ source.game = source.name ∧ source.flatten = false
  excludedAscending : classified.excluded.Pairwise (· < ·)
  prefixedAscending : (classified.prefixed.map Source.name).Pairwise (· < ·)
  rawAscending : (classified.raw.map Source.name).Pairwise (· < ·)

theorem perm_dedup : (distinctNames names).Perm names.dedup := by
  refine (List.perm_ext_iff_of_nodup nodup_distinctNames names.nodup_dedup).mpr fun name => ?_
  rw [mem_distinctNames, List.mem_dedup]

theorem divides_ofNames : Divides names reserved logPrefix (ofNames names reserved logPrefix) where
  once := by
    have grouped := (@perm_distinctNames reserved names logPrefix).trans perm_dedup
    rwa [sources, List.map_append, ← List.append_assoc] at grouped
  excluded name := by rw [mem_excluded_iff, Placement.of_eq_excluded_iff]
  prefixed source := by
    rw [mem_prefixed_iff, Placement.of_eq_prefixed_iff]
    constructor
    · rintro ⟨listed, flatten, apart, joined⟩
      exact ⟨listed, apart, joined, Placement.game_ne_empty apart joined, flatten⟩
    · rintro ⟨listed, apart, joined, _, flatten⟩
      exact ⟨listed, flatten, apart, joined⟩
  raw source := by
    rw [mem_raw_iff, Placement.of_eq_raw_iff]
    constructor
    · rintro ⟨listed, same, flat, apart, bare⟩
      exact ⟨listed, apart, bare, same, flat⟩
    · rintro ⟨listed, apart, bare, same, flat⟩
      exact ⟨listed, same, flat, apart, bare⟩
  excludedAscending := pairwise_ofNames.1
  prefixedAscending := pairwise_ofNames.2.1
  rawAscending := pairwise_ofNames.2.2

theorem distinctNames_congr (same : ∀ name, name ∈ names ↔ name ∈ others) :
    distinctNames names = distinctNames others := by
  refine pairwise_distinctNames.eq_of_mem_iff pairwise_distinctNames fun name => ?_
  rw [mem_distinctNames, mem_distinctNames, same]

/-- The names of a list are divided among the groups, each by itself: lists with the same names are
classified alike, and a name that two lists have is in the same group in both. -/
theorem ofNames_groups_by_name (names reserved : List String) (logPrefix : String) :
    let classified := ofNames names reserved logPrefix
    Divides names reserved logPrefix classified ∧
      ∀ others : List String,
        ((∀ name, name ∈ names ↔ name ∈ others) → ofNames others reserved logPrefix = classified) ∧
        (∀ name, name ∈ names → name ∈ others →
          (name ∈ classified.excluded ↔ name ∈ (ofNames others reserved logPrefix).excluded)) ∧
        ∀ source : Source, source.name ∈ names → source.name ∈ others →
          (source ∈ classified.prefixed ↔ source ∈ (ofNames others reserved logPrefix).prefixed) ∧
          (source ∈ classified.raw ↔ source ∈ (ofNames others reserved logPrefix).raw) := by
  refine ⟨divides_ofNames, fun others => ⟨fun same => ?_, ?_, ?_⟩⟩
  · rw [ofNames, ofNames, distinctNames_congr same]
  · intro name listed alsoListed
    rw [mem_excluded_iff, mem_excluded_iff, and_iff_right listed, and_iff_right alsoListed]
  · intro source listed alsoListed
    rw [mem_prefixed_iff, mem_prefixed_iff, mem_raw_iff, mem_raw_iff]
    exact ⟨by rw [and_iff_right listed, and_iff_right alsoListed],
      by rw [and_iff_right listed, and_iff_right alsoListed]⟩

/-- A prefix that begins like the names of the store and like a reserved name: these are excluded, and of
the other names those that begin with it lose it. -/
theorem ofNames_groups_by_name_specimen :
    ofNames ["sys", "snake", "system.views", "s", "tetris", "snake", ""] ["sys"] "s" =
        ⟨[⟨"snake", "nake", true⟩], [⟨"tetris", "tetris", false⟩], ["", "s", "sys", "system.views"]⟩ ∧
      Divides ["sys", "snake", "system.views", "s", "tetris", "snake", ""] ["sys"] "s"
        (ofNames ["sys", "snake", "system.views", "s", "tetris", "snake", ""] ["sys"] "s") ∧
      ofNames ["", "tetris", "s", "system.views", "snake", "sys"] ["sys"] "s" =
        ofNames ["sys", "snake", "system.views", "s", "tetris", "snake", ""] ["sys"] "s" ∧
      "s" ∈ (ofNames ["go", "s"] ["sys"] "s").excluded := by
  obtain ⟨divided, others⟩ :=
    ofNames_groups_by_name ["sys", "snake", "system.views", "s", "tetris", "snake", ""] ["sys"] "s"
  refine ⟨by decide, divided, (others _).1 fun name => ?_, ?_⟩
  · simp only [List.mem_cons, List.not_mem_nil, or_false]
    grind
  · exact ((others ["go", "s"]).2.1 "s" (by decide) (by decide)).mp (by decide)

end GameLogs.Classification
