namespace GameLogs

/-! Rows of entries under distinct keys.

A row keeps the order in which its keys were first entered.  It is read through `item?`, and its
order through `keys`; what a change does to both is said beside it.
-/

/-- Items under keys, in the order in which the keys were entered. -/
abbrev Entries (Key Item : Type) : Type := List (Key × Item)

namespace Entries

variable {Key Item : Type}

def keys (entries : Entries Key Item) : List Key := entries.map Prod.fst

variable [DecidableEq Key]

def item? : Entries Key Item → Key → Option Item
  | [], _ => none
  | first :: rest, key => if first.1 = key then some first.2 else item? rest key

/-- Puts an item under a key: in its place if the row has the key, at the end otherwise. -/
def put : Entries Key Item → Key → Item → Entries Key Item
  | [], key, item => [(key, item)]
  | first :: rest, key, item =>
      if first.1 = key then (key, item) :: rest else first :: put rest key item

def remove (entries : Entries Key Item) (key : Key) : Entries Key Item :=
  entries.filter fun entry => decide (entry.1 ≠ key)

variable {entries : Entries Key Item} {key other : Key} {item : Item}

theorem item?_eq_none_iff : entries.item? key = none ↔ key ∉ entries.keys := by
  induction entries with
  | nil => simp [item?, keys]
  | cons first rest ih =>
      by_cases same : first.1 = key
      · simp [item?, keys, same]
      · simpa [item?, keys, same, Ne.symm same] using ih

@[simp] theorem item?_put_self : (entries.put key item).item? key = some item := by
  induction entries with
  | nil => simp [put, item?]
  | cons first rest ih => by_cases same : first.1 = key <;> simp [put, item?, same, ih]

theorem item?_put_of_ne (different : other ≠ key) :
    (entries.put key item).item? other = entries.item? other := by
  induction entries with
  | nil => simp [put, item?, Ne.symm different]
  | cons first rest ih =>
      by_cases same : first.1 = key
      · simp [put, item?, same, Ne.symm different]
      · simp [put, item?, same, ih]

/-- A present key keeps its place, a new one goes to the end. -/
theorem keys_put :
    (entries.put key item).keys =
      if key ∈ entries.keys then entries.keys else entries.keys ++ [key] := by
  induction entries with
  | nil => simp [put, keys]
  | cons first rest ih =>
      by_cases same : first.1 = key
      · simp [put, same, keys]
      · simp only [keys] at ih
        simp only [put, if_neg same, keys, List.map_cons, ih, List.mem_cons, Ne.symm same,
          false_or]
        split <;> simp [*]

theorem put_put_self {first : Item} : (entries.put key first).put key item = entries.put key item := by
  induction entries with
  | nil => simp [put]
  | cons entry rest ih => by_cases same : entry.1 = key <;> simp [put, same, ih]

theorem mem_keys_put : other ∈ (entries.put key item).keys ↔ other = key ∨ other ∈ entries.keys := by
  rw [keys_put]
  split
  case isTrue present => grind
  case isFalse => simp [or_comm]

theorem exists_item?_of_mem_keys (present : key ∈ entries.keys) : ∃ item, entries.item? key = some item := by
  cases found : entries.item? key with
  | none => exact absurd present (item?_eq_none_iff.mp found)
  | some item => exact ⟨item, rfl⟩

theorem put_of_item? (stored : entries.item? key = some item) : entries.put key item = entries := by
  induction entries with
  | nil => cases stored
  | cons first rest ih =>
      rw [item?] at stored
      rw [put]
      split at stored
      case isTrue same =>
        obtain rfl := Option.some.inj stored
        rw [if_pos same, ← same]
      case isFalse different => rw [if_neg different, ih stored]

theorem mem_put_of_ne {stored : Item} (different : other ≠ key) :
    (other, stored) ∈ entries.put key item ↔ (other, stored) ∈ entries := by
  induction entries with
  | nil => simp [put, different]
  | cons first rest ih =>
      rw [put]
      split
      case isTrue same =>
        have another : (other, stored) ≠ first := by
          rintro rfl
          exact different same
        simp [different, another]
      case isFalse => rw [List.mem_cons, List.mem_cons, ih]

theorem nodup_keys_put (distinct : entries.keys.Nodup) : (entries.put key item).keys.Nodup := by
  rw [keys_put]
  split
  · exact distinct
  · rename_i missing
    refine List.nodup_append.mpr ⟨distinct, by simp, ?_⟩
    intro name member other appended
    obtain rfl := List.mem_singleton.mp appended
    exact fun same => missing (same ▸ member)

theorem put_of_not_mem (missing : key ∉ entries.keys) :
    entries.put key item = entries ++ [(key, item)] := by
  induction entries with
  | nil => rfl
  | cons first rest ih =>
      simp only [keys, List.map_cons, List.mem_cons, not_or] at missing
      simp [put, Ne.symm missing.1, ih missing.2]

theorem keys_remove : (entries.remove key).keys = entries.keys.filter fun name => name ≠ key := by
  simp [remove, keys, List.filter_map, Function.comp_def]

@[simp] theorem item?_remove_self : (entries.remove key).item? key = none := by
  simp [item?_eq_none_iff, keys_remove]

theorem item?_remove_of_ne (different : other ≠ key) :
    (entries.remove key).item? other = entries.item? other := by
  induction entries with
  | nil => rfl
  | cons first rest ih =>
      by_cases same : first.1 = key
      · have dropped : remove (first :: rest) key = remove rest key := by simp [remove, same]
        rw [dropped, ih, item?, if_neg (same ▸ Ne.symm different)]
      · have kept : remove (first :: rest) key = first :: remove rest key := by
          simp [remove, same]
        rw [kept, item?, item?, ih]

end Entries
end GameLogs
