import GameLogs.Proofs.Placement
import Mathlib.Data.List.Sort
import Mathlib.Data.String.Basic
namespace GameLogs

/-! Which sources a list of names yields.

The sources depend only on which names that are not excluded occur in the list: neither order nor
repetition matters, nor the presence of excluded names.  Their names are distinct, and no more than two
of them have the same game.
-/

theorem pairwise_insertName {name : String} {names : List String}
    (ascending : names.Pairwise (· < ·)) : (insertName name names).Pairwise (· < ·) := by
  induction names with
  | nil => exact List.pairwise_singleton _ _
  | cons first rest ih =>
      obtain ⟨below, restAscending⟩ := List.pairwise_cons.mp ascending
      rw [insertName]
      split
      case isTrue => exact ascending
      case isFalse different =>
        split
        case isTrue less =>
          refine List.pairwise_cons.mpr ⟨?_, ascending⟩
          intro other member
          rcases List.mem_cons.mp member with rfl | later
          · exact less
          · exact lt_trans less (below other later)
        case isFalse notLess =>
          refine List.pairwise_cons.mpr ⟨?_, ih restAscending⟩
          intro other member
          rcases mem_insertName.mp member with rfl | later
          · exact lt_of_le_of_ne (not_lt.mp notLess) (Ne.symm different)
          · exact below other later

theorem pairwise_distinctNames {names : List String} : (distinctNames names).Pairwise (· < ·) := by
  induction names with
  | nil => exact .nil
  | cons name rest ih => exact pairwise_insertName ih

namespace Classification

variable {reserved names others : List String} {logPrefix : String} {source : Source}

private def kept (reserved : List String) (logPrefix name : String) : Bool :=
  decide (Placement.of reserved logPrefix name ≠ .excluded)

private theorem place_filter_kept (reserved names : List String) (logPrefix : String) :
    (place reserved logPrefix (names.filter (kept reserved logPrefix))).prefixed =
        (place reserved logPrefix names).prefixed ∧
      (place reserved logPrefix (names.filter (kept reserved logPrefix))).raw =
        (place reserved logPrefix names).raw := by
  induction names with
  | nil => exact ⟨rfl, rfl⟩
  | cons name rest ih =>
      obtain ⟨prefixed, raw⟩ := ih
      by_cases excluded : Placement.of reserved logPrefix name = .excluded
      · rw [List.filter_cons_of_neg (by simp [kept, excluded])]
        simp only [place, add, excluded, prefixed, raw, and_self]
      · rw [List.filter_cons_of_pos (by simp [kept, excluded])]
        cases placed : Placement.of reserved logPrefix name <;>
          simp [place, add, placed, prefixed, raw]

/-- Names that are excluded have no part in the sources. -/
theorem ofNames_congr
    (same : ∀ name, Placement.of reserved logPrefix name ≠ .excluded → (name ∈ names ↔ name ∈ others)) :
    (ofNames names reserved logPrefix).prefixed = (ofNames others reserved logPrefix).prefixed ∧
      (ofNames names reserved logPrefix).raw = (ofNames others reserved logPrefix).raw := by
  have filtered : (distinctNames names).filter (kept reserved logPrefix) =
      (distinctNames others).filter (kept reserved logPrefix) := by
    refine (pairwise_distinctNames.filter _).eq_of_mem_iff (pairwise_distinctNames.filter _) ?_
    intro name
    simp only [List.mem_filter, mem_distinctNames, kept, decide_eq_true_eq]
    exact and_congr_left fun placed => same name placed
  have left := place_filter_kept reserved (distinctNames names) logPrefix
  have right := place_filter_kept reserved (distinctNames others) logPrefix
  rw [filtered] at left
  exact ⟨left.1.symm.trans right.1, left.2.symm.trans right.2⟩

theorem sources_ofNames_congr
    (same : ∀ name, Placement.of reserved logPrefix name ≠ .excluded → (name ∈ names ↔ name ∈ others)) :
    (ofNames names reserved logPrefix).sources = (ofNames others reserved logPrefix).sources := by
  obtain ⟨prefixed, raw⟩ := ofNames_congr same
  rw [sources, sources, prefixed, raw]

theorem placement_of_mem_sources (member : source ∈ (ofNames names reserved logPrefix).sources) :
    source.name ∈ names ∧ Placement.of reserved logPrefix source.name ≠ .excluded := by
  rcases List.mem_append.mp member with isPrefixed | isRaw
  · obtain ⟨listed, _, placed⟩ := mem_prefixed_iff.mp isPrefixed
    exact ⟨listed, by simp [placed]⟩
  · obtain ⟨listed, _, _, placed⟩ := mem_raw_iff.mp isRaw
    exact ⟨listed, by simp [placed]⟩

theorem mem_sources_of_subset
    (known : ∀ name, Placement.of reserved logPrefix name ≠ .excluded → name ∈ names → name ∈ others)
    (member : source ∈ (ofNames names reserved logPrefix).sources) :
    source ∈ (ofNames others reserved logPrefix).sources := by
  obtain ⟨listed, placed⟩ := placement_of_mem_sources member
  have still := known source.name placed listed
  rcases List.mem_append.mp member with isPrefixed | isRaw
  · exact List.mem_append_left _ (mem_prefixed_iff.mpr ⟨still, (mem_prefixed_iff.mp isPrefixed).2⟩)
  · exact List.mem_append_right _ (mem_raw_iff.mpr ⟨still, (mem_raw_iff.mp isRaw).2⟩)

theorem placement_target : Placement.of Schema.reserved Schema.logPrefix Schema.target = .excluded := by
  simp [Placement.of, Schema.reserved]

/-- The target is never copied into itself. -/
theorem name_ne_target_of_mem_sources (member : source ∈ (ofNames names).sources) :
    source.name ≠ Schema.target := by
  intro same
  have placed := (placement_of_mem_sources member).2
  rw [same] at placed
  exact placed placement_target

/-- Every name goes to one group. -/
private theorem place_perm : ((place reserved logPrefix names).excluded ++
    (place reserved logPrefix names).sources.map Source.name).Perm names := by
  induction names with
  | nil => exact .refl _
  | cons name rest ih =>
      simp only [sources, List.map_append] at ih ⊢
      rw [place]
      cases Placement.of reserved logPrefix name with
      | excluded => exact ih.cons name
      | prefixed game => exact List.perm_middle.trans (ih.cons name)
      | raw =>
          simp only [add, List.map_cons, ← List.append_assoc] at ih ⊢
          exact List.perm_middle.trans (ih.cons name)

private theorem place_sublist :
    (place reserved logPrefix names).excluded.Sublist names ∧
      ((place reserved logPrefix names).prefixed.map Source.name).Sublist names ∧
      ((place reserved logPrefix names).raw.map Source.name).Sublist names := by
  induction names with
  | nil => exact ⟨.slnil, .slnil, .slnil⟩
  | cons name rest ih =>
      obtain ⟨excluded, prefixed, raw⟩ := ih
      rw [place]
      cases Placement.of reserved logPrefix name with
      | excluded => exact ⟨excluded.cons_cons name, prefixed.cons name, raw.cons name⟩
      | prefixed game => exact ⟨excluded.cons name, prefixed.cons_cons name, raw.cons name⟩
      | raw => exact ⟨excluded.cons name, prefixed.cons name, raw.cons_cons name⟩

theorem nodup_distinctNames : (distinctNames names).Nodup :=
  pairwise_distinctNames.imp fun less => ne_of_lt less

theorem perm_distinctNames : ((ofNames names reserved logPrefix).excluded ++
    (ofNames names reserved logPrefix).sources.map Source.name).Perm (distinctNames names) :=
  place_perm

theorem pairwise_ofNames :
    (ofNames names reserved logPrefix).excluded.Pairwise (· < ·) ∧
      ((ofNames names reserved logPrefix).prefixed.map Source.name).Pairwise (· < ·) ∧
      ((ofNames names reserved logPrefix).raw.map Source.name).Pairwise (· < ·) := by
  obtain ⟨excluded, prefixed, raw⟩ := @place_sublist reserved (distinctNames names) logPrefix
  exact ⟨pairwise_distinctNames.sublist excluded, pairwise_distinctNames.sublist prefixed,
    pairwise_distinctNames.sublist raw⟩

theorem nodup_names_sources : ((ofNames names reserved logPrefix).sources.map Source.name).Nodup :=
  (List.nodup_append.mp (perm_distinctNames.nodup_iff.mpr nodup_distinctNames)).2.1

/-- Two names at most are those of sources of one game: the game behind the prefix, and the game itself
unless it begins with the prefix. -/
theorem game_eq_iff {game : String} (member : source ∈ (ofNames names reserved logPrefix).sources) :
    source.game = game ↔
      source.name = logPrefix ++ game ∨ source.name = game ∧ Text.startsWith game logPrefix = false := by
  rcases List.mem_append.mp member with isPrefixed | isRaw
  · obtain ⟨_, _, placed⟩ := mem_prefixed_iff.mp isPrefixed
    have named := (Placement.of_eq_prefixed_iff.mp placed).2
    have starts : Text.startsWith source.name logPrefix = true := Text.startsWith_iff.mpr ⟨_, named⟩
    constructor
    · rintro rfl
      exact Or.inl named
    · rintro (same | ⟨rfl, apart⟩)
      · exact String.append_right_inj logPrefix |>.mp (named.symm.trans same)
      · rw [starts] at apart
        cases apart
  · obtain ⟨_, same, _, placed⟩ := mem_raw_iff.mp isRaw
    have bare := (Placement.of_eq_raw_iff.mp placed).2
    rw [← Text.startsWith_iff, Bool.not_eq_true] at bare
    rw [same]
    constructor
    · rintro rfl
      exact Or.inr ⟨rfl, bare⟩
    · rintro (joined | ⟨own, _⟩)
      · rw [Text.startsWith_iff.mpr ⟨game, joined⟩] at bare
        cases bare
      · exact own

end Classification
end GameLogs
