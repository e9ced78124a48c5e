import GameLogs.Proofs.Frames
import GameLogs.Proofs.Indexes
import GameLogs.Proofs.Renaming
namespace GameLogs

/-! Operations that keep documents in their places, under their identities.

Every operation on a collection does, however it ends: documents only come in behind the others, under
identities that are free, and none loses its place or its identity.
-/

namespace Collection

variable {collection before after : Collection} {rules : FailureRules} {doc : Document}

/-- Every document has an identity, and no two identities are equal. -/
structure Identified (collection : Collection) : Prop where
  named : ∀ doc ∈ collection.documents, doc.has Field.identity = true
  distinct : collection.documents.Pairwise fun first second =>
    (first.field Field.identity).equals (second.field Field.identity) = false

def labels (collection : Collection) : List (Option Value) :=
  collection.documents.map (·.field? Field.identity)

theorem identified_iff_labels : collection.Identified ↔
    (∀ label ∈ collection.labels, label.isSome = true) ∧
      collection.labels.Pairwise fun first second =>
        (first.getD .null).equals (second.getD .null) = false := by
  constructor
  · rintro ⟨named, distinct⟩
    exact ⟨List.forall_mem_map.mpr named, List.pairwise_map.mpr distinct⟩
  · rintro ⟨named, distinct⟩
    exact ⟨List.forall_mem_map.mp named, List.pairwise_map.mp distinct⟩

/-- The documents of a collection are in another one too, in the same places and under the same
identities; and if their identities are distinct, so are all there. -/
structure KeptBy (before after : Collection) : Prop where
  labels : before.labels <+: after.labels
  identified : before.Identified → after.Identified

theorem keptBy_of_labels_eq (same : after.labels = before.labels) : before.KeptBy after where
  labels := same ▸ List.prefix_rfl
  identified identified := by
    rw [identified_iff_labels, same]
    exact identified_iff_labels.mp identified

theorem keptBy_refl : collection.KeptBy collection := keptBy_of_labels_eq rfl

theorem keptBy_trans (first second third : Collection) (earlier : first.KeptBy second)
    (later : second.KeptBy third) : first.KeptBy third where
  labels := earlier.labels.trans later.labels
  identified identified := later.identified (earlier.identified identified)

theorem keptBy_offer : collection.KeptBy (collection.offer rules doc) := by
  cases accepted : collection.accepts rules doc with
  | false =>
      rw [offer_of_not_accepts accepted]
      exact keptBy_refl
  | true =>
      have grown : (collection.append doc).documents = collection.documents ++ [doc] := rfl
      have entered := accepted
      simp only [accepts, Bool.and_eq_true, Bool.not_eq_true'] at entered
      obtain ⟨⟨named, _⟩, free⟩ := entered
      rw [offer_of_accepts accepted]
      refine ⟨?_, fun identified => ⟨?_, ?_⟩⟩
      · rw [Collection.labels, Collection.labels, grown, List.map_append]
        exact List.prefix_append _ _
      · rw [grown, List.forall_mem_append, List.forall_mem_singleton]
        exact ⟨identified.named, named⟩
      · rw [grown, List.pairwise_append]
        refine ⟨identified.distinct, List.pairwise_singleton _ _, ?_⟩
        intro other member last same
        obtain rfl := List.mem_singleton.mp same
        exact Bool.eq_false_iff.mpr (List.any_eq_false.mp free other member)

/-- A document that is kept stands where it stood, under the identity that it had. -/
theorem KeptBy.exists_getElem? (kept : before.KeptBy after) {place : Nat}
    (stored : before.documents[place]? = some doc) :
    ∃ still, after.documents[place]? = some still ∧
      still.field? Field.identity = doc.field? Field.identity := by
  obtain ⟨bound, _⟩ := List.getElem?_eq_some_iff.mp stored
  have labelled := List.prefix_iff_getElem?.mp kept.labels place (by simpa [Collection.labels] using bound)
  have label : before.labels[place]? = some (doc.field? Field.identity) := by
    rw [Collection.labels, List.getElem?_map, stored, Option.map_some]
  rw [← List.getElem?_eq_getElem, label, Collection.labels, List.getElem?_map] at labelled
  exact Option.map_eq_some_iff.mp labelled

theorem holds_eq_any_labels {identity : Value} :
    collection.holds identity = collection.labels.any fun label => (label.getD .null).equals identity := by
  rw [holds, labels, List.any_map]
  rfl

theorem KeptBy.holds (kept : before.KeptBy after) {identity : Value} (held : before.holds identity = true) :
    after.holds identity = true := by
  obtain ⟨added, joined⟩ := kept.labels
  rw [holds_eq_any_labels] at held
  rw [holds_eq_any_labels, ← joined, List.any_append, held, Bool.true_or]

end Collection

theorem Job.Respects.bindKeeping {A B : Type} {job : Job Collection A} {next : A → Job Collection B}
    (first : job.Respects Collection.KeptBy) (second : ∀ value, (next value).Respects Collection.KeptBy) :
    (job >>= next).Respects Collection.KeptBy :=
  first.bind Collection.keptBy_trans second

theorem Job.ReadsOnly.keeping {A : Type} {job : Job Collection A} (unchanged : job.ReadsOnly) :
    job.Respects Collection.KeptBy :=
  unchanged.respects fun _ => Collection.keptBy_refl

theorem Insertion.respects_perform {rules : FailureRules} {doc : Document} :
    (perform rules doc).Respects Collection.KeptBy :=
  fun _ => Collection.keptBy_offer

theorem respects_buildIndexes {rules : FailureRules} {requests : List IndexRequest} :
    (buildIndexes rules requests).Respects Collection.KeptBy := by
  intro collection
  apply Collection.keptBy_of_labels_eq
  rw [Collection.labels, documents_buildIndexes, Collection.labels]

theorem Renaming.respects_perform {fields : Renaming} {rules : FailureRules}
    (spared : fields.Spares Field.identity) : (fields.perform rules).Respects Collection.KeptBy :=
  respects_perform_of (fun _ => Collection.keptBy_refl) Collection.keptBy_trans fun _ =>
    Collection.keptBy_of_labels_eq (Collection.map_field?_renamed spared)

namespace Source

variable {source : Source} {rules : FailureRules} {cadence : Int} {total count : Nat} {tally : Tally}
  {doc : Document} {docs : List Document} {cursor : Cursor}

theorem respects_copyDocument :
    (source.copyDocument rules cadence total count tally doc).Respects Collection.KeptBy := by
  refine Insertion.respects_perform.bindKeeping fun insertion => Job.ReadsOnly.keeping ?_
  exact (Job.readsOnly_tellAll _).bind fun _ => readsOnly_showProgress.bind fun _ => Job.readsOnly_pure _

theorem respects_copyDocuments :
    (source.copyDocuments rules cadence total count tally docs).Respects Collection.KeptBy := by
  induction docs generalizing count tally with
  | nil => exact (Job.readsOnly_pure tally).keeping
  | cons doc rest ih => exact respects_copyDocument.bindKeeping fun _ => ih

theorem respects_copyCursor :
    (source.copyCursor rules cadence total cursor).Respects Collection.KeptBy := by
  refine respects_copyDocuments.bindKeeping fun tally => Job.ReadsOnly.keeping ?_
  split
  · exact Job.readsOnly_stop _
  · exact (Job.readsOnly_tellAll _).bind fun _ => Job.readsOnly_pure _

end Source

namespace Database

variable {name target : String}

/-- The collection of a name is kept from one database to another. -/
def KeptAt (target : String) (before after : Database) : Prop :=
  (before.collection target).KeptBy (after.collection target)

/-- An operation that keeps the collection it works on keeps every collection. -/
theorem frame_keptAt : Frame name Collection.KeptBy (KeptAt target) where
  refl _ := Collection.keptBy_refl
  trans _ _ _ := Collection.keptBy_trans _ _ _
  looked _ _ := by
    rw [KeptAt, collection_looked]
    exact Collection.keptBy_refl
  put database collection kept := by
    by_cases same : target = name
    · subst same
      rw [KeptAt, collection_put_self]
      exact kept
    · rw [KeptAt, collection_put_of_ne same]
      exact Collection.keptBy_refl

end Database
end GameLogs
