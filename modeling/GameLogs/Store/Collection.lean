import GameLogs.Document.Fields
import GameLogs.Schema
import GameLogs.Store.Fault
namespace GameLogs

/-! Collections of documents.

A collection is a row of documents in the order in which they were inserted.  An operation that
fails leaves it as it was.
-/

structure Index where
  keys : List (String × Int)
  /-- Whether the collection can be used while the index is built. -/
  background : Bool
deriving DecidableEq, Repr

inductive Filter where
  | all
  /-- Documents that have a field, or those that lack it, as the value tells. -/
  | present (field : String) (wanted : Value)
  /-- Documents whose field has a value; a missing field counts as null. -/
  | equal (field : String) (value : Value)

namespace Filter

def accepts : Filter → Document → Bool
  | .all, _ => true
  | .present field wanted, doc => (Value.bool (doc.has field)).equals wanted
  | .equal field value, doc => (doc.field field).equals value

def having (field : String) : Filter := .present field (.bool true)

/-- The condition on a field that a value stands for: a document that asks for the presence of the
field, or a value to compare with. -/
def ofCondition (field : String) (condition : Value) : Filter :=
  match condition.document?.bind fun fields => fields.field? "$exists" with
  | some wanted => .present field wanted
  | none => .equal field condition

end Filter

/-- The documents that a search yields one by one, and the fault that stops it after them. -/
structure Cursor where
  documents : List Document
  fault? : Option Fault

namespace Cursor

/-- The part of a search's result that a limit leaves: all for zero, the first ones for a positive
limit, all but the last ones for a negative one. -/
def limited (limit : Int) (docs : List Document) : List Document :=
  if limit = 0 then docs
  else if 0 < limit then docs.take limit.toNat
  else docs.take (docs.length - limit.natAbs)

/-- What the rules let through of documents that begin at a position. -/
def ofDocumentsFrom (rules : FailureRules) : Nat → List Document → Cursor
  | _, [] => ⟨[], none⟩
  | position, doc :: rest =>
      match rules.cursorFault? position with
      | some fault => ⟨[], some fault⟩
      | none =>
          let cursor := ofDocumentsFrom rules (position + 1) rest
          { cursor with documents := doc :: cursor.documents }

/-- The documents of a search under a limit, as far as the rules let them through. -/
def ofDocuments (rules : FailureRules) (limit : Int) (docs : List Document) : Cursor :=
  ofDocumentsFrom rules 0 (limited limit docs)

def toList (cursor : Cursor) : Except Fault (List Document) :=
  match cursor.fault? with
  | some fault => .error fault
  | none => .ok cursor.documents

end Cursor

structure Collection where
  documents : List Document
  indexes : Entries String Index
  /-- Whether the collection exists: it comes into being when it is first written to. -/
  present : Bool

namespace Collection

def absent : Collection := ⟨[], [], false⟩

def ofDocuments (docs : List Document) : Collection := ⟨docs, [], true⟩

/-- Appends documents without any check. -/
def load (collection : Collection) (docs : List Document) : Collection :=
  { collection with documents := collection.documents ++ docs, present := true }

def find (collection : Collection) (rules : FailureRules) (filter : Filter) :
    Except Fault (List Document) :=
  match rules.findFault? with
  | some fault => .error fault
  | none => .ok (collection.documents.filter filter.accepts)

def count (collection : Collection) (rules : FailureRules) (filter : Filter) :
    Except Fault Nat :=
  match rules.countFault? with
  | some fault => .error fault
  | none => .ok (collection.documents.countP filter.accepts)

def addDistinct (values : List Value) (value : Value) : List Value :=
  if values.any (·.equals value) then values else values ++ [value]

/-- The distinct values of a field in the order in which they are first met. -/
def distinct (collection : Collection) (rules : FailureRules) (field : String) :
    Except Fault (List Value) :=
  match rules.distinctFault? with
  | some fault => .error fault
  | none => .ok ((collection.documents.filterMap (·.field? field)).foldl addDistinct [])

/-- Whether a document has the identity; a document without one counts as null. -/
def holds (collection : Collection) (identity : Value) : Bool :=
  collection.documents.any fun doc => (doc.field Field.identity).equals identity

def append (collection : Collection) (doc : Document) : Collection :=
  { collection with documents := collection.documents ++ [doc], present := true }

def insert (collection : Collection) (rules : FailureRules) (doc : Document) :
    Except Fault Collection :=
  let identity := doc.field Field.identity
  match rules.insertFault? identity with
  | some fault => .error fault
  | none =>
      if collection.holds identity then .error ⟨.duplicateKey, "duplicate identity"⟩
      else .ok (collection.append doc)

def build (collection : Collection) (rules : FailureRules) (name : String) (index : Index) :
    Except Fault Collection :=
  match rules.indexFault? name with
  | some fault => .error fault
  | none =>
      .ok { collection with indexes := collection.indexes.put name index, present := true }

/-- Renames a field in every document that has it, and counts these documents. -/
def rename (collection : Collection) (rules : FailureRules) (before after : String) :
    Except Fault (Collection × Nat) :=
  match rules.updateFault? with
  | some fault => .error fault
  | none =>
      .ok ({ collection with documents := collection.documents.map (·.rename before after) },
        collection.documents.countP (·.has before))

variable {collection grown : Collection} {rules : FailureRules} {doc : Document} {fault : Fault}

/-- A document is inserted where no rule strikes and its identity is free, and it is appended. -/
theorem insert_eq_ok_iff :
    collection.insert rules doc = .ok grown ↔
      rules.insertFault? (doc.field Field.identity) = none ∧
        collection.holds (doc.field Field.identity) = false ∧ grown = collection.append doc := by
  rw [eq_comm (a := grown)]
  simp only [insert]
  cases rules.insertFault? (doc.field Field.identity) <;>
    cases collection.holds (doc.field Field.identity) <;> simp

/-- After an insertion the identities are those of before and the new one. -/
theorem holds_append {identity : Value} :
    (collection.append doc).holds identity =
      (collection.holds identity || (doc.field Field.identity).equals identity) := by
  simp [holds, append]

end Collection

namespace Cursor

variable {rules : FailureRules} {docs : List Document}

theorem ofDocumentsFrom_of_free (free : ∀ position, rules.cursorFault? position = none)
    (position : Nat) : ofDocumentsFrom rules position docs = ⟨docs, none⟩ := by
  induction docs generalizing position with
  | nil => rfl
  | cons doc rest ih => simp [ofDocumentsFrom, free position, ih]

theorem documents_of_unstopped {position : Nat} (unstopped : (ofDocumentsFrom rules position docs).fault? = none) :
    (ofDocumentsFrom rules position docs).documents = docs := by
  induction docs generalizing position with
  | nil => rfl
  | cons doc rest ih =>
      cases failing : rules.cursorFault? position with
      | some fault => simp [ofDocumentsFrom, failing] at unstopped
      | none =>
          simp only [ofDocumentsFrom, failing] at unstopped ⊢
          rw [ih unstopped]

@[simp] theorem limited_zero : limited 0 docs = docs := rfl

theorem limited_of_pos {count : Nat} (positive : 0 < count) : limited count docs = docs.take count := by
  have signed : (0 : Int) < count := by omega
  have nonzero : (count : Int) ≠ 0 := by omega
  rw [limited, if_neg nonzero, if_pos signed, Int.toNat_natCast]

theorem limited_of_neg {count : Nat} (positive : 0 < count) :
    limited (-count) docs = docs.take (docs.length - count) := by
  have signed : ¬ (0 : Int) < -count := by omega
  have nonzero : (-count : Int) ≠ 0 := by omega
  rw [limited, if_neg nonzero, if_neg signed, Int.natAbs_neg, Int.natAbs_natCast]

theorem ofDocumentsFrom_prefix (position : Nat) :
    (ofDocumentsFrom rules position docs).documents <+: docs := by
  induction docs generalizing position with
  | nil => exact List.prefix_rfl
  | cons doc rest ih =>
      simp only [ofDocumentsFrom]
      split
      · exact List.nil_prefix
      · exact (List.prefix_cons_inj doc).mpr (ih (position + 1))

end Cursor
end GameLogs
