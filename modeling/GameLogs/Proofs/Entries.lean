import GameLogs.Entries
import Mathlib.Algebra.Ring.Nat
import Mathlib.Data.List.Induction
namespace GameLogs.Entries

/-! Changes to a row one after another: the last item under a key stays, in the place that the key got
when it was first entered.
-/

variable {Key Item : Type} [DecidableEq Key] {entries : Entries Key Item} {key other : Key} {item : Item}

theorem put_put_of_ne {moved : Item} (different : key ≠ other) (present : key ∈ entries.keys) :
    (entries.put key item).put other moved = (entries.put other moved).put key item := by
  induction entries with
  | nil => cases present
  | cons entry rest ih =>
      by_cases same : entry.1 = key
      · simp [put, same, different]
      · have later : key ∈ keys rest := by
          simpa [keys, Ne.symm same] using present
        by_cases met : entry.1 = other
        · simp [put, met, Ne.symm different]
        · simp [put, same, met, ih later]

theorem put_append_of_mem {more : Entries Key Item} (present : key ∈ entries.keys) :
    put (entries ++ more) key item = entries.put key item ++ more := by
  induction entries with
  | nil => cases present
  | cons entry rest ih =>
      by_cases same : entry.1 = key
      · simp [put, same]
      · have later : key ∈ keys rest := by
          simpa [keys, Ne.symm same] using present
        simp [put, same, ih later]

theorem put_append_of_not_mem {more : Entries Key Item} (missing : key ∉ entries.keys) :
    put (entries ++ more) key item = entries ++ more.put key item := by
  induction entries with
  | nil => rfl
  | cons entry rest ih =>
      simp only [keys, List.map_cons, List.mem_cons, not_or] at missing
      simp [put, Ne.symm missing.1, ih missing.2]

def putAll (entries updates : Entries Key Item) : Entries Key Item :=
  updates.foldl (fun entries update => entries.put update.1 update.2) entries

variable {updates : Entries Key Item}

theorem putAll_append {more : Entries Key Item} :
    entries.putAll (updates ++ more) = (entries.putAll updates).putAll more :=
  List.foldl_append

theorem mem_keys_putAll : key ∈ (entries.putAll updates).keys ↔ key ∈ entries.keys ∨ key ∈ updates.keys := by
  induction updates generalizing entries with
  | nil => simp [putAll, keys]
  | cons update rest ih =>
      have step : key ∈ ((entries.put update.1 update.2).putAll rest).keys ↔
          key ∈ (entries.put update.1 update.2).keys ∨ key ∈ keys rest := ih
      rw [mem_keys_put] at step
      simp only [putAll, keys] at step ⊢
      simp only [List.foldl_cons, step, List.map_cons, List.mem_cons]
      grind

/-- What a key was given before does not show once the key is given an item again. -/
private theorem put_putAll_put {first : Item} (present : key ∈ entries.keys) :
    ((entries.put key first).putAll updates).put key item = (entries.putAll updates).put key item := by
  induction updates generalizing entries first with
  | nil => exact put_put_self
  | cons update rest ih =>
      obtain ⟨name, value⟩ := update
      have still : key ∈ (entries.put name value).keys := mem_keys_put.mpr (Or.inr present)
      by_cases same : key = name
      · subst same
        change (((entries.put key first).put key value).putAll rest).put key item =
          ((entries.put key value).putAll rest).put key item
        rw [put_put_self]
      · change (((entries.put key first).put name value).putAll rest).put key item =
          ((entries.put name value).putAll rest).put key item
        rw [put_put_of_ne same present, ih still]

private theorem putAll_append_of_mem {more : Entries Key Item}
    (present : ∀ key ∈ updates.keys, key ∈ entries.keys) :
    putAll (entries ++ more) updates = entries.putAll updates ++ more := by
  induction updates generalizing entries with
  | nil => rfl
  | cons update rest ih =>
      have here : update.1 ∈ entries.keys := present _ (by simp [keys])
      change putAll (put (entries ++ more) update.1 update.2) rest =
        (entries.put update.1 update.2).putAll rest ++ more
      rw [put_append_of_mem here]
      apply ih
      intro key member
      exact mem_keys_put.mpr (Or.inr (present key (by simp only [keys] at member ⊢; simp [member])))

/-- Updates that have been made change nothing when they are made again. -/
theorem putAll_again : (entries.putAll updates).putAll updates = entries.putAll updates := by
  -- The induction takes the last update away: only that one is sure to show in the result.
  induction updates using List.reverseRecOn with
  | nil => rfl
  | append_singleton earlier update ih =>
      obtain ⟨name, value⟩ := update
      simp only [putAll_append]
      change (((entries.putAll earlier).put name value).putAll earlier).put name value =
        (entries.putAll earlier).put name value
      by_cases present : name ∈ (entries.putAll earlier).keys
      · rw [put_putAll_put present, ih]
      · have settled : ∀ key ∈ keys earlier, key ∈ (entries.putAll earlier).keys :=
          fun key member => mem_keys_putAll.mpr (Or.inr member)
        rw [put_of_not_mem present, putAll_append_of_mem settled, ih, ← put_of_not_mem present]
        exact put_of_item? item?_put_self

theorem item?_putAll_of_not_mem (missing : key ∉ updates.keys) :
    (entries.putAll updates).item? key = entries.item? key := by
  induction updates generalizing entries with
  | nil => rfl
  | cons update rest ih =>
      simp only [keys, List.map_cons, List.mem_cons, not_or] at missing
      change ((entries.put update.1 update.2).putAll rest).item? key = entries.item? key
      rw [ih missing.2, item?_put_of_ne missing.1]

/-- Of several items that a key is given, the last one stays. -/
theorem item?_putAll_of_last {earlier later : Entries Key Item} (last : key ∉ later.keys) :
    (entries.putAll (earlier ++ (key, item) :: later)).item? key = some item := by
  rw [putAll_append]
  change (((entries.putAll earlier).put key item).putAll later).item? key = some item
  rw [item?_putAll_of_not_mem last, item?_put_self]

theorem item?_of_mem (distinct : entries.keys.Nodup) (member : (key, item) ∈ entries) :
    entries.item? key = some item := by
  induction entries with
  | nil => cases member
  | cons first rest ih =>
      obtain ⟨apart, later⟩ := List.nodup_cons.mp distinct
      rcases List.mem_cons.mp member with rfl | behind
      · rw [item?, if_pos rfl]
      · have different : first.1 ≠ key := by
          rintro rfl
          exact apart (List.mem_map.mpr ⟨_, behind, rfl⟩)
        rw [item?, if_neg different, ih later behind]

theorem item?_of_perm {others : Entries Key Item} (distinct : entries.keys.Nodup)
    (permuted : entries.Perm others) : entries.item? key = others.item? key := by
  have names : entries.keys.Perm others.keys := permuted.map _
  by_cases present : key ∈ entries.keys
  · obtain ⟨⟨name, item⟩, member, rfl⟩ := List.mem_map.mp present
    rw [item?_of_mem distinct member, item?_of_mem (names.nodup_iff.mp distinct) (permuted.mem_iff.mp member)]
  · rw [item?_eq_none_iff.mpr present, item?_eq_none_iff.mpr (mt names.mem_iff.mpr present)]

theorem item?_map_item {change : Key → Item → Item} :
    item? (entries.map fun entry => (entry.1, change entry.1 entry.2)) key =
      (entries.item? key).map (change key) := by
  induction entries with
  | nil => rfl
  | cons first rest ih =>
      by_cases same : first.1 = key
      · simp [item?, same]
      · simp [item?, same, ih]

theorem item?_map_mk {names : List Key} {make : Key → Item} :
    item? (names.map fun name => (name, make name)) key = if key ∈ names then some (make key) else none := by
  induction names with
  | nil => rfl
  | cons name rest ih =>
      by_cases same : name = key
      · simp [item?, same]
      · simp [item?, same, Ne.symm same, ih]

/-- Of entries under distinct keys, one at most adds to a sum for a single key. -/
theorem sum_map_item (distinct : entries.keys.Nodup) {amount : Item → Nat} :
    (entries.map fun entry => if entry.1 = key then amount entry.2 else 0).sum =
      (entries.item? key).elim 0 amount := by
  induction entries with
  | nil => rfl
  | cons first rest ih =>
      obtain ⟨apart, later⟩ := List.nodup_cons.mp distinct
      rw [List.map_cons, List.sum_cons, ih later, item?]
      by_cases same : first.1 = key
      · have missing : item? rest key = none := item?_eq_none_iff.mpr (same ▸ apart)
        simp [same, missing]
      · simp [same]

end GameLogs.Entries
