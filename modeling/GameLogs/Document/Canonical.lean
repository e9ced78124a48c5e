import GameLogs.Document.Fields
import GameLogs.Schema
namespace GameLogs.Document

/-! Canonical documents.

A canonical document has its identity first, then the game, then the other fields of the root, and
then those fields of the payload that the root does not have: the value written first stays.
-/

/-- The payload of a document, if it is a document itself. -/
def payload? (doc : Document) : Option Document := (doc.field Field.payload).document?

/-- The identity of a document, if it has one, and the game. -/
def heading (doc : Document) (game : Value) : Document :=
  match doc.field? Field.identity with
  | some identity => [(Field.identity, identity), (Field.game, game)]
  | none => [(Field.game, game)]

/-- Copies a field of the root.  The identity and the game stand in the heading, and the payload is
not copied as it is. -/
def addRootField (doc : Document) (field : String × Value) : Document :=
  if field.1 ∈ [Field.identity, Field.payload, Field.game] then doc else doc.put field.1 field.2

/-- Copies a field of the payload, unless the document has a field of that name.  A payload never
gives a document its identity. -/
def addPayloadField (doc : Document) (field : String × Value) : Document :=
  if doc.has field.1 || field.1 == Field.identity then doc else doc.put field.1 field.2

def canonical (doc : Document) (game : Value) (flatten : Bool) : Document :=
  let root := doc.foldl addRootField (doc.heading game)
  match doc.payload? with
  | some payload => if flatten then payload.foldl addPayloadField root else root
  | none => root

/-- The keys of the payload that the root hides: their values are lost in the canonical form. -/
def hiddenKeys (doc : Document) : List String :=
  match doc.payload? with
  | none => []
  | some payload =>
      let rootKeys :=
        Field.identity :: Field.game :: doc.keys.filter fun key => key != Field.payload
      payload.keys.filter fun key => rootKeys.contains key

end GameLogs.Document
