import GameLogs.Proofs.Entries
import GameLogs.Proofs.SurveyParts
namespace GameLogs

/-! Keys ranked by how often they were met.

Counting leaves the keys in the order in which they were first met.  Ranking keeps that order among the keys
that were met equally often, because a key is put behind those that are there with its count.
-/

variable {entry first second : String × Int} {counts sorted : List (String × Int)} {met : List String} {key : String}

/-- The first key was met more often than the second, or equally often and first met earlier. -/
def RanksBefore (met : List String) (first second : String × Int) : Prop :=
  second.2 < first.2 ∨ first.2 = second.2 ∧ met.idxOf first.1 < met.idxOf second.1

/-- The row of all keys that were met, once each with how often, in the order of their ranks. -/
structure Ranking (met : List String) (row : List (String × Int)) : Prop where
  once : (row.map Prod.fst).Nodup
  mem_iff : ∀ key count, (key, count) ∈ row ↔ key ∈ met ∧ count = (List.count key met : Int)
  ordered : row.Pairwise (RanksBefore met)

theorem perm_insertByCount : (insertByCount entry sorted).Perm (entry :: sorted) := by
  induction sorted with
  | nil => exact .refl _
  | cons first rest ih =>
      simp only [insertByCount]
      split
      · exact (ih.cons first).trans (.swap entry first rest)
      · exact .refl _

theorem byDescendingCount_concat :
    byDescendingCount (counts ++ [entry]) = insertByCount entry (byDescendingCount counts) := by
  simp [byDescendingCount]

theorem perm_byDescendingCount : (byDescendingCount counts).Perm counts := by
  induction counts using List.reverseRecOn with
  | nil => exact .refl _
  | append_singleton earlier entry ih =>
      rw [byDescendingCount_concat]
      exact perm_insertByCount.trans ((ih.cons entry).trans (List.perm_append_singleton entry earlier).symm)

theorem byDescendingCount_eq_nil_iff : byDescendingCount counts = [] ↔ counts = [] :=
  ⟨fun empty => (empty ▸ perm_byDescendingCount).nil_eq.symm, fun empty => by rw [empty]; rfl⟩

theorem Ranking.eq_nil_iff {row : List (String × Int)} (ranked : Ranking met row) : row = [] ↔ ∀ key, key ∉ met := by
  constructor
  · rintro rfl key known
    exact List.not_mem_nil ((ranked.mem_iff key _).mpr ⟨known, rfl⟩)
  · intro unmet
    exact List.eq_nil_iff_forall_not_mem.mpr fun entry member => unmet entry.1 ((ranked.mem_iff _ _).mp member).1

/-- A new entry that was first met after all others comes to stand where its count puts it. -/
theorem pairwise_insertByCount (ordered : sorted.Pairwise (RanksBefore met))
    (later : ∀ earlier ∈ sorted, met.idxOf earlier.1 < met.idxOf entry.1) :
    (insertByCount entry sorted).Pairwise (RanksBefore met) := by
  induction sorted with
  | nil => exact List.pairwise_singleton _ _
  | cons first rest ih =>
      obtain ⟨ahead, behind⟩ := List.pairwise_cons.mp ordered
      simp only [insertByCount]
      split
      case isTrue fewer =>
        refine List.pairwise_cons.mpr ⟨fun other member => ?_, ih behind fun other member =>
          later other (List.mem_cons_of_mem first member)⟩
        rcases List.mem_cons.mp (perm_insertByCount.mem_iff.mp member) with rfl | old
        · have order := later first List.mem_cons_self
          unfold RanksBefore
          omega
        · exact ahead other old
      case isFalse more =>
        refine List.pairwise_cons.mpr ⟨fun other member => Or.inl ?_, ordered⟩
        rcases List.mem_cons.mp member with rfl | old
        · omega
        · have above := ahead other old
          unfold RanksBefore at above
          omega

theorem pairwise_byDescendingCount
    (ordered : counts.Pairwise fun first second => met.idxOf first.1 < met.idxOf second.1) :
    (byDescendingCount counts).Pairwise (RanksBefore met) := by
  induction counts using List.reverseRecOn with
  | nil => exact .nil
  | append_singleton earlier entry ih =>
      obtain ⟨before, _, later⟩ := List.pairwise_append.mp ordered
      rw [byDescendingCount_concat]
      refine pairwise_insertByCount (ih before) fun other member => ?_
      exact later other (perm_byDescendingCount.mem_iff.mp member) entry (List.mem_singleton_self entry)

namespace KeyCounts

theorem mem_keys_addAll : key ∈ (met.foldl add []).keys ↔ key ∈ met := by
  induction met using List.reverseRecOn with
  | nil => simp [Entries.keys]
  | append_singleton earlier last ih =>
      rw [List.foldl_append, List.foldl_cons, List.foldl_nil, add, Entries.mem_keys_put, ih, List.mem_append,
        List.mem_singleton, or_comm]

theorem pairwise_keys_addAll :
    (met.foldl add []).keys.Pairwise fun first second => met.idxOf first < met.idxOf second := by
  induction met using List.reverseRecOn with
  | nil => exact .nil
  | append_singleton earlier last ih =>
      have kept : (earlier.foldl add []).keys.Pairwise fun first second =>
          (earlier ++ [last]).idxOf first < (earlier ++ [last]).idxOf second := by
        refine ih.imp_of_mem fun {first second} one other order => ?_
        rw [List.idxOf_append_of_mem (mem_keys_addAll.mp one), List.idxOf_append_of_mem (mem_keys_addAll.mp other)]
        exact order
      rw [List.foldl_append, List.foldl_cons, List.foldl_nil, keys_add]
      split
      case isTrue => exact kept
      case isFalse new =>
        rw [mem_keys_addAll] at new
        refine List.pairwise_append.mpr ⟨kept, List.pairwise_singleton _ _, fun first member second appended => ?_⟩
        obtain rfl := List.mem_singleton.mp appended
        have known := mem_keys_addAll.mp member
        rw [List.idxOf_append_of_mem known, List.idxOf_append_of_notMem new]
        have bound := List.idxOf_lt_length_of_mem known
        omega

theorem mem_addAll_iff {count : Nat} : (key, count) ∈ met.foldl add [] ↔ key ∈ met ∧ count = List.count key met := by
  have distinct : (met.foldl add []).keys.Nodup := nodup_keys_addAll List.nodup_nil
  have counted : (met.foldl add []).count key = List.count key met := by
    rw [count_addAll]
    exact Nat.zero_add _
  constructor
  · intro member
    have found := Entries.item?_of_mem distinct member
    rw [KeyCounts.count, found, Option.getD_some] at counted
    exact ⟨mem_keys_addAll.mp (List.mem_map.mpr ⟨_, member, rfl⟩), counted⟩
  · rintro ⟨known, rfl⟩
    obtain ⟨⟨name, count⟩, member, rfl⟩ := List.mem_map.mp (mem_keys_addAll.mpr known)
    rw [KeyCounts.count, Entries.item?_of_mem distinct member, Option.getD_some] at counted
    rw [← counted]
    exact member

end KeyCounts

theorem ranking_byDescendingCount (met : List String) :
    Ranking met (byDescendingCount ((met.foldl KeyCounts.add []).map fun entry => (entry.1, (entry.2 : Int)))) where
  once := by
    rw [(perm_byDescendingCount.map Prod.fst).nodup_iff, List.map_map]
    exact KeyCounts.nodup_keys_addAll List.nodup_nil
  mem_iff key count := by
    rw [perm_byDescendingCount.mem_iff, List.mem_map]
    constructor
    · rintro ⟨⟨name, number⟩, member, same⟩
      obtain ⟨rfl, rfl⟩ := Prod.mk.inj same
      obtain ⟨known, rfl⟩ := KeyCounts.mem_addAll_iff.mp member
      exact ⟨known, rfl⟩
    · rintro ⟨known, rfl⟩
      exact ⟨(key, List.count key met), KeyCounts.mem_addAll_iff.mpr ⟨known, rfl⟩, rfl⟩
  ordered := by
    have ordered := @KeyCounts.pairwise_keys_addAll met
    rw [Entries.keys, List.pairwise_map] at ordered
    exact pairwise_byDescendingCount (List.pairwise_map.mpr ordered)

end GameLogs
