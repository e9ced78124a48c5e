import GameLogs.Job
import GameLogs.Store.Collection
namespace GameLogs

/-! Databases: collections by name.

A collection that was only looked at is listed but does not exist.
-/

/-- The collections of a database in the order in which they were first looked at. -/
structure Database where
  collections : Entries String Collection

namespace Database

def empty : Database := ⟨[]⟩

/-- The collection of a name; one that is not listed does not exist. -/
def collection (database : Database) (name : String) : Collection :=
  (database.collections.item? name).getD .absent

/-- Sets the collection of a name: in its place if it is listed. -/
def put (database : Database) (name : String) (collection : Collection) : Database :=
  ⟨database.collections.put name collection⟩

def names (database : Database) : List String :=
  (database.collections.filter fun entry => entry.2.present).map Prod.fst

def on {A : Type} (name : String) (job : Job Collection A) : Job Database A :=
  job.within (·.collection name) fun collection database => database.put name collection

def look (name : String) : Job Database Unit := on name (pure ())

def looked (database : Database) (name : String) : Database := database.put name (database.collection name)

variable {database : Database} {name other : String} {collection : Collection}

@[simp] theorem collection_put_self : (database.put name collection).collection name = collection := by
  simp [Database.collection, put]

theorem collection_put_of_ne (different : other ≠ name) :
    (database.put name collection).collection other = database.collection other := by
  simp [Database.collection, put, Entries.item?_put_of_ne different]

theorem put_put_self {first : Collection} :
    (database.put name first).put name collection = database.put name collection := by
  simp only [put, Entries.put_put_self]

/-- An operation on one collection changes that collection as it says. -/
theorem collection_on_self {A : Type} (job : Job Collection A) :
    ((on name job).run database).state.collection name = (job.run (database.collection name)).state := by
  simp [on]

@[simp] theorem run_look : (look name).run database = ⟨.ok (), database.looked name, []⟩ := rfl

theorem run_on_of_run {A : Type} {job : Job Collection A} {result : Except Error A}
    {after : Collection} {notices : List Notice}
    (ran : job.run (database.collection name) = ⟨result, after, notices⟩) :
    (on name job).run database = ⟨result, database.put name after, notices⟩ := by
  simp [on, ran]

theorem run_on_of_unchanged {A : Type} {job : Job Collection A} {result : Except Error A}
    {notices : List Notice}
    (ran : job.run (database.collection name) = ⟨result, database.collection name, notices⟩) :
    (on name job).run database = ⟨result, database.looked name, notices⟩ :=
  run_on_of_run ran

@[simp] theorem collection_looked : (database.looked name).collection other = database.collection other := by
  by_cases same : other = name
  · rw [same, looked, collection_put_self]
  · exact collection_put_of_ne same

/-- A collection that is listed is looked at without a trace. -/
theorem looked_of_listed (listed : name ∈ database.collections.keys) : database.looked name = database := by
  obtain ⟨stored, found⟩ := Entries.exists_item?_of_mem_keys listed
  have same : database.collection name = stored := by simp [Database.collection, found]
  rw [looked, same, put, Entries.put_of_item? found]

theorem mem_names_iff : name ∈ database.names ↔ ∃ stored, (name, stored) ∈ database.collections ∧ stored.present = true := by
  simp [names]

theorem listed_of_mem_names (member : name ∈ database.names) : name ∈ database.collections.keys := by
  obtain ⟨stored, entry, _⟩ := mem_names_iff.mp member
  exact List.mem_map.mpr ⟨_, entry, rfl⟩

theorem mem_names_put_of_ne (different : other ≠ name) :
    other ∈ (database.put name collection).names ↔ other ∈ database.names := by
  simp only [mem_names_iff, put, Entries.mem_put_of_ne different]

/-- Looking at a collection does not make it exist. -/
@[simp] theorem names_looked : (database.looked name).names = database.names := by
  by_cases listed : name ∈ database.collections.keys
  · rw [looked_of_listed listed]
  · have missing : database.collection name = .absent := by
      simp [Database.collection, Entries.item?_eq_none_iff.mpr listed]
    simp [looked, missing, put, names, Entries.put_of_not_mem listed, Collection.absent]

end Database

/-- What operations are given beside the database. -/
structure Setting where
  failures : FailurePlan
  /-- Progress is shown each time so many documents have been read. -/
  cadence : Int

/-- Nothing fails, and progress is shown as usual. -/
def Setting.standard : Setting := ⟨[], Schema.standardCadence⟩

end GameLogs
