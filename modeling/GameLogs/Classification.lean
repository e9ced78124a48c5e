import GameLogs.Schema
import GameLogs.Text.Beginning
namespace GameLogs

/-! Which collections are consolidated, and in which form.

Every name belongs to one of three groups: excluded, prefixed or raw.  The group of a name depends
on the name alone; the groups list their names in ascending order and once each.
-/

/-- A collection whose documents are copied to the target. -/
structure Source where
  name : String
  /-- The game that its documents get. -/
  game : String
  /-- Whether the fields of a document's payload move up to the document. -/
  flatten : Bool
deriving DecidableEq, Repr

def isReservedName (name : String) : Bool :=
  Schema.reserved.contains name || Text.startsWith name Schema.storePrefix

inductive Placement where
  | excluded
  /-- A source of nested documents; the game is what follows the prefix. -/
  | prefixed (game : String)
  /-- A source of flat documents. -/
  | raw
deriving DecidableEq, Repr

/-- The group of a name, given the reserved names and the prefix of sources with nested documents. -/
def Placement.of (reserved : List String) (logPrefix name : String) : Placement :=
  if name = "" ∨ name ∈ reserved ∨ Text.startsWith name Schema.storePrefix then .excluded
  else
    match Text.after? name logPrefix with
    | none => .raw
    | some game => if game = "" then .excluded else .prefixed game

def insertName (name : String) : List String → List String
  | [] => [name]
  | first :: rest =>
      if name = first then first :: rest
      else if name < first then name :: first :: rest
      else first :: insertName name rest

def distinctNames (names : List String) : List String := names.foldr insertName []

@[simp] theorem mem_insertName {name other : String} {names : List String} :
    other ∈ insertName name names ↔ other = name ∨ other ∈ names := by
  induction names with
  | nil => simp [insertName]
  | cons first rest ih =>
      simp only [insertName]
      split
      · rename_i same; simp [same]
      · split <;> simp [ih, or_left_comm]

@[simp] theorem mem_distinctNames {name : String} {names : List String} :
    name ∈ distinctNames names ↔ name ∈ names := by
  induction names with
  | nil => simp [distinctNames]
  | cons first rest ih =>
      simp only [distinctNames, List.foldr_cons, mem_insertName, List.mem_cons] at ih ⊢
      rw [ih]

structure Classification where
  prefixed : List Source
  raw : List Source
  excluded : List String
deriving DecidableEq, Repr

namespace Classification

def empty : Classification := ⟨[], [], []⟩

def add (classified : Classification) (name : String) : Placement → Classification
  | .excluded => { classified with excluded := name :: classified.excluded }
  | .prefixed game => { classified with prefixed := ⟨name, game, true⟩ :: classified.prefixed }
  | .raw => { classified with raw := ⟨name, name, false⟩ :: classified.raw }

def place (reserved : List String) (logPrefix : String) : List String → Classification
  | [] => empty
  | name :: rest =>
      (place reserved logPrefix rest).add name (.of reserved logPrefix name)

def ofNames (names : List String) (reserved : List String := Schema.reserved)
    (logPrefix : String := Schema.logPrefix) : Classification :=
  place reserved logPrefix (distinctNames names)

/-- The sources in the order in which they are consolidated: prefixed ones first. -/
def sources (classified : Classification) : List Source := classified.prefixed ++ classified.raw

variable {reserved names : List String} {logPrefix : String}

private theorem mem_place_excluded {name : String} :
    name ∈ (place reserved logPrefix names).excluded ↔
      name ∈ names ∧ Placement.of reserved logPrefix name = .excluded := by
  induction names with
  | nil => simp [place, empty]
  | cons first rest ih =>
      simp only [place, List.mem_cons]
      cases group : Placement.of reserved logPrefix first <;> simp only [add, List.mem_cons, ih] <;>
        grind

private theorem mem_place_prefixed {source : Source} :
    source ∈ (place reserved logPrefix names).prefixed ↔
      source.name ∈ names ∧ source.flatten = true ∧
        Placement.of reserved logPrefix source.name = .prefixed source.game := by
  induction names with
  | nil => simp [place, empty]
  | cons first rest ih =>
      simp only [place, List.mem_cons]
      obtain ⟨name, game, flatten⟩ := source
      cases group : Placement.of reserved logPrefix first <;>
        simp only [add, List.mem_cons, ih, Source.mk.injEq] <;> grind

private theorem mem_place_raw {source : Source} :
    source ∈ (place reserved logPrefix names).raw ↔
      source.name ∈ names ∧ source.game = source.name ∧ source.flatten = false ∧
        Placement.of reserved logPrefix source.name = .raw := by
  induction names with
  | nil => simp [place, empty]
  | cons first rest ih =>
      simp only [place, List.mem_cons]
      obtain ⟨name, game, flatten⟩ := source
      cases group : Placement.of reserved logPrefix first <;>
        simp only [add, List.mem_cons, ih, Source.mk.injEq] <;> grind

/-- A name is excluded by its placement alone. -/
theorem mem_excluded_iff {name : String} :
    name ∈ (ofNames names reserved logPrefix).excluded ↔
      name ∈ names ∧ Placement.of reserved logPrefix name = .excluded := by
  simp [ofNames, mem_place_excluded]

theorem mem_prefixed_iff {source : Source} :
    source ∈ (ofNames names reserved logPrefix).prefixed ↔
      source.name ∈ names ∧ source.flatten = true ∧
        Placement.of reserved logPrefix source.name = .prefixed source.game := by
  simp [ofNames, mem_place_prefixed]

theorem mem_raw_iff {source : Source} :
    source ∈ (ofNames names reserved logPrefix).raw ↔
      source.name ∈ names ∧ source.game = source.name ∧ source.flatten = false ∧
        Placement.of reserved logPrefix source.name = .raw := by
  simp [ofNames, mem_place_raw]

end Classification
end GameLogs
