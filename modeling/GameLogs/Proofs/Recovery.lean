import GameLogs.Proofs.Growth
import GameLogs.Proofs.Isolation
import GameLogs.Proofs.Obstacles
import GameLogs.Proofs.Progress
namespace GameLogs

/-! Consolidations that an obstacle stops, and those that follow once the obstacles are removed.

The sources before the obstacle have been copied to their ends, and its own source up to it; what comes
after it has not been touched.  An obstacle brings nothing to a target, so that a stopped consolidation is an
interrupted one of the documents that are no obstacles.
-/

namespace Collection

variable {target : Collection} {rules : FailureRules} {delivery : Delivery} {deliveries : List Delivery}

theorem settles_of_obstacle {fault : Fault} (met : delivery.document.obstacle? rules = some fault) :
    target.Settles rules delivery := by
  intro identity named allowed
  rw [Document.obstacle?, ← Delivery.identity?, named] at met
  simp [allowed] at met

theorem receive_filter_clear :
    target.receive rules (deliveries.filter fun delivery => (delivery.document.obstacle? rules).isNone) =
      target.receive rules deliveries := by
  induction deliveries generalizing target with
  | nil => rfl
  | cons delivery rest ih =>
      cases met : delivery.document.obstacle? rules with
      | none => rw [List.filter_cons_of_pos (by simp [met]), receive_cons, receive_cons, ih]
      | some fault =>
          rw [List.filter_cons_of_neg (by simp [met]), receive_cons, offer_of_settles (settles_of_obstacle met), ih]

theorem indexes_receive : (target.receive rules deliveries).indexes = target.indexes := by
  induction deliveries generalizing target with
  | nil => rfl
  | cons delivery rest ih =>
      rw [receive_cons, ih, offer_eq]
      split <;> rfl

end Collection

namespace Database

variable {setting : Setting} {obstacle? : Document → Option Fault} {database cleared : Database}
  {earlier later : List Source} {source : Source} {before : List Document} {doc : Document} {fault : Fault}

/-- Where the first obstacle of a database is: in which source, and behind which sources. -/
structure StopsAt (database : Database) (obstacle? : Document → Option Fault) (earlier : List Source)
    (source : Source) (before : List Document) (doc : Document) (fault : Fault) : Prop where
  sources : earlier ++ [source] <+: database.sources
  clear : ∀ other ∈ earlier, ∀ doc ∈ (database.collection other.name).documents, obstacle? doc = none
  obstacle : FirstObstacle obstacle? (database.collection source.name).documents before doc fault

theorem exists_stopsAt
    (obstructed : ∃ source ∈ database.sources, ∃ doc ∈ (database.collection source.name).documents,
      (obstacle? doc).isSome = true) :
    ∃ earlier source before doc fault, database.StopsAt obstacle? earlier source before doc fault := by
  have somewhere : (database.sources.findSome? fun source =>
      (database.collection source.name).documents.findSome? obstacle?).isSome = true := by
    simpa only [List.findSome?_isSome_iff] using obstructed
  obtain ⟨fault, found⟩ := Option.isSome_iff_exists.mp somewhere
  obtain ⟨earlier, source, later, split, here, clear⟩ := List.findSome?_eq_some_iff.mp found
  obtain ⟨before, doc, obstacle⟩ := exists_firstObstacle_of_findSome? here
  refine ⟨earlier, source, before, doc, fault, ⟨later, by simp [split]⟩, fun other member => ?_, obstacle⟩
  exact List.findSome?_eq_none_iff.mp (clear other member)

theorem copySources_stopped (readable : setting.Readable)
    (foreign : ∀ other ∈ earlier ++ source :: later, other.name ≠ Schema.target)
    (clear : ∀ other ∈ earlier, ∀ doc ∈ (database.collection other.name).documents,
      doc.obstacle? setting.targetRules = none)
    (obstacle : FirstObstacle (Document.obstacle? setting.targetRules)
      (database.collection source.name).documents before doc fault) :
    let reached := (copySources setting earlier).run database
    let stopped := (source.copyTo setting Schema.target).run reached.state
    (∃ tallies, reached.result = .ok tallies) ∧ stopped.result = .error (.store fault) ∧
      stopped.state.collection Schema.target = (database.collection Schema.target).receive setting.targetRules
        (earlier.flatMap database.batch ++ before.map (Delivery.mk source)) ∧
      ((copySources setting (earlier ++ source :: later)).run database).result = .error (.store fault) ∧
      ((copySources setting (earlier ++ source :: later)).run database).state = stopped.state := by
  obtain ⟨foreignEarlier, foreignLater⟩ := List.forall_mem_append.mp foreign
  obtain ⟨foreignHere, _⟩ := List.forall_mem_cons.mp foreignLater
  have copied := @run_copySources setting database earlier readable foreignEarlier clear
  obtain ⟨received, alike⟩ := @foldl_afterCopying setting.targetRules database earlier foreignEarlier
  rw [← alike.collections source.name foreignHere] at obstacle
  have failed := @run_copyTo_of_obstacle setting _ source Schema.target doc before fault readable obstacle
  have ended : (copySources setting (earlier ++ source :: later)).run database = _ :=
    Job.run_mapM_of_error copied (Job.run_bind_of_error failed)
  simp only [ended, copied, failed, and_self, and_true, true_and]
  refine ⟨⟨_, rfl⟩, ?_⟩
  rw [collection_put_self, received, ← Collection.receive_append]

/-- The sources before the obstacle are copied to their ends, the next one is stopped by it, and that is
how the target is left. -/
theorem consolidate_stopped (readable : setting.Readable)
    (stops : database.StopsAt (Document.obstacle? setting.targetRules) earlier source before doc fault) :
    let reached := (copySources setting earlier).run database
    let stopped := (source.copyTo setting Schema.target).run reached.state
    (∃ tallies, reached.result = .ok tallies) ∧ stopped.result = .error (.store fault) ∧
      ((consolidate setting).run database).result = .error (.store fault) ∧
      ((consolidate setting).run database).state.collection Schema.target =
        stopped.state.collection Schema.target ∧
      (stopped.state.collection Schema.target).indexes = (database.collection Schema.target).indexes := by
  obtain ⟨later, split⟩ := stops.sources
  rw [List.append_assoc, List.singleton_append] at split
  have foreign : ∀ other ∈ earlier ++ source :: later, other.name ≠ Schema.target := by
    rw [split]
    exact fun _ => name_ne_target_of_mem_sources
  obtain ⟨reached, failed, left, _, _⟩ := copySources_stopped readable foreign stops.clear stops.obstacle
  -- The consolidation looks at the target first, which changes neither the sources nor what is in them.
  have seen : ∀ name, (database.looked Schema.target).collection name = database.collection name :=
    fun _ => collection_looked
  have batches : (database.looked Schema.target).batch = database.batch := by
    funext other
    rw [batch, batch, seen]
  obtain ⟨_, _, leftToo, ended, same⟩ :=
    @copySources_stopped setting (database.looked Schema.target) earlier later source before doc fault readable
      foreign (by simpa only [seen] using stops.clear) (by simpa only [seen] using stops.obstacle)
  rw [batches, seen, ← same] at leftToo
  rw [run_consolidate_eq, ← split, consolidateSources]
  rcases copied : (copySources setting (earlier ++ source :: later)).run (database.looked Schema.target) with
    ⟨result, state, notices⟩
  rw [copied] at ended leftToo
  obtain rfl : result = .error (.store fault) := ended
  simp only [Job.run_bind_of_error copied]
  exact ⟨reached, failed, trivial, leftToo.trans left.symm, by rw [left, Collection.indexes_receive]⟩

/-- The same sources without the documents that are obstacles, and the same target. -/
def ClearedTo (database cleared : Database) (obstacle? : Document → Option Fault) : Prop :=
  database.AlikeInSources (fun docs kept => kept = docs.filter fun doc => (obstacle? doc).isNone) cleared

theorem ClearedTo.deliveries_eq (removed : database.ClearedTo cleared obstacle?) :
    cleared.deliveries = database.deliveries.filter fun delivery => (obstacle? delivery.document).isNone := by
  have kept : ∀ source ∈ database.sources,
      cleared.batch source = (database.batch source).filter fun delivery => (obstacle? delivery.document).isNone := by
    intro source member
    rw [batch, removed.documents source member, batch, List.filter_map]
    rfl
  rw [deliveries, deliveries, ← removed.sources_eq, List.filter_flatMap, List.flatMap_def, List.flatMap_def]
  exact congrArg List.flatten (List.map_congr_left kept)

theorem ClearedTo.documents_consolidate
    (removed : database.ClearedTo cleared (Document.obstacle? setting.targetRules))
    (readable : setting.Readable) :
    (((consolidate setting).run cleared).state.collection Schema.target).documents =
      ((database.collection Schema.target).receive setting.targetRules cleared.deliveries).documents := by
  have foreign : ∀ source ∈ cleared.sources, source.name ≠ Schema.target :=
    fun _ => name_ne_target_of_mem_sources
  have clear : ∀ source ∈ cleared.sources, ∀ doc ∈ ((cleared.looked Schema.target).collection source.name).documents,
      doc.obstacle? setting.targetRules = none := by
    intro source member doc stored
    rw [← removed.sources_eq] at member
    rw [collection_looked, removed.documents source member] at stored
    exact Option.isNone_iff_eq_none.mp (List.mem_filter.mp stored).2
  rw [Database.documents_consolidate, run_copySources readable foreign clear, (foldl_afterCopying foreign).1,
    alikeBesideTarget_looked.batches_eq foreign, collection_looked, removed.target]
  rfl

/-- However a consolidation ended: once the obstacles are removed, the next one leaves the documents that
it would have left without them. -/
theorem consolidate_resumed {clean : Database} (readable : setting.Readable)
    (resumed : ((consolidate setting).run database).state.ClearedTo cleared
      (Document.obstacle? setting.targetRules))
    (removed : database.ClearedTo clean (Document.obstacle? setting.targetRules))
    (proper : ∀ delivery ∈ clean.deliveries, delivery.Proper) :
    (((consolidate setting).run cleared).state.collection Schema.target).documents =
      (((consolidate setting).run clean).state.collection Schema.target).documents := by
  obtain ⟨reach, left⟩ := exists_documents_interrupted setting database
  rw [collection_interrupted_target, ← Collection.receive_filter_clear] at left
  have same : cleared.deliveries = clean.deliveries := by
    rw [resumed.deliveries_eq, (alikeBesideTarget_consolidate database).deliveries_eq, removed.deliveries_eq]
  -- What the first run has offered are the first of the deliveries that are no obstacles.
  have first : ((database.deliveries.take reach).filter fun delivery =>
      (delivery.document.obstacle? setting.targetRules).isNone) <+: clean.deliveries := by
    rw [removed.deliveries_eq]
    exact (List.take_prefix reach _).filter _
  rw [List.prefix_iff_eq_take.mp first] at left
  have continued := @Collection.SameDocuments.receive _ _ setting.targetRules clean.deliveries left
  rw [resumed.documents_consolidate readable, removed.documents_consolidate readable, same, continued,
    Collection.receive_resumed proper]

/-- In a store that looks identities up by a hash, a copy stops if and only if a document of its source has an
identity without a hash, and leaves the target as a copy of the documents before the first such document leaves
it.  A consolidation stops with the same fault: it has copied the sources before to their ends, and the source of
that document up to it; it has copied no later source and built no index.  Once all documents without a hash are
removed, another consolidation leaves the documents that one would have left at once without them. -/
theorem consolidate_stops_and_recovers (hashing : Hashing) (setting : Setting) (readable : setting.Readable) :
    (∀ (database : Database) (source : Source) (target : String), (setting.failures.of target).HashesBy hashing →
      let docs := (database.collection source.name).documents
      let copied := (source.copyTo setting target).run database
      ((∃ error, copied.result = .error error) ↔ ∃ doc ∈ docs, ∃ identity,
        doc.field? Field.identity = some identity ∧ (hashing.refusal? identity).isSome = true) ∧
      ∀ before doc fault, FirstObstacle (Document.hashFault? hashing) docs before doc fault →
        copied.result = .error (.store fault) ∧ fault.kind = .badType ∧
        ∀ (other : Database) (shorter : Source), shorter.game = source.game → shorter.flatten = source.flatten →
          other.collection target = database.collection target →
          (other.collection shorter.name).documents = before →
          (∃ tally, ((shorter.copyTo setting target).run other).result = .ok tally) ∧
            copied.state.collection target = ((shorter.copyTo setting target).run other).state.collection target) ∧
    (setting.targetRules.HashesBy hashing → ∀ database : Database,
      let outcome := (consolidate setting).run database
      ((∃ source ∈ database.sources, ∃ doc ∈ (database.collection source.name).documents, ∃ identity,
          doc.field? Field.identity = some identity ∧ (hashing.refusal? identity).isSome = true) →
        ∃ earlier source before doc fault,
          database.StopsAt (Document.hashFault? hashing) earlier source before doc fault ∧
          let reached := (copySources setting earlier).run database
          let stopped := (source.copyTo setting Schema.target).run reached.state
          (∃ tallies, reached.result = .ok tallies) ∧ stopped.result = .error (.store fault) ∧
            outcome.result = .error (.store fault) ∧
            outcome.state.collection Schema.target = stopped.state.collection Schema.target ∧
            (outcome.state.collection Schema.target).indexes = (database.collection Schema.target).indexes) ∧
      ∀ cleared clean : Database, outcome.state.ClearedTo cleared (Document.hashFault? hashing) →
        database.ClearedTo clean (Document.hashFault? hashing) →
        (∀ delivery ∈ clean.deliveries, delivery.Proper) →
        (((consolidate setting).run cleared).state.collection Schema.target).documents =
          (((consolidate setting).run clean).state.collection Schema.target).documents) := by
  refine ⟨fun database source target hashes => ⟨?_, fun before doc fault obstacle => ?_⟩,
    fun hashes database => ⟨fun obstructed => ?_, fun cleared clean resumed removed => ?_⟩⟩
  · simpa only [hashes.isSome_obstacle?_iff] using @copyTo_fails_iff setting database source target readable
  · obtain ⟨identity, _, found⟩ := Option.bind_eq_some_iff.mp obstacle.met
    rw [← hashes.obstacle?_eq] at obstacle
    refine ⟨congrArg Outcome.result (run_copyTo_of_obstacle readable obstacle), Hashing.kind_of_fault? found, ?_⟩
    intro other shorter game flatten same prior
    exact collection_copyTo_eq_shorter readable obstacle game flatten same prior
  · simp only [← hashes.isSome_obstacle?_iff] at obstructed
    obtain ⟨earlier, source, before, doc, fault, stops⟩ := exists_stopsAt obstructed
    obtain ⟨reached, failed, ended, left, unbuilt⟩ := consolidate_stopped readable stops
    rw [← hashes.obstacle?_eq]
    exact ⟨earlier, source, before, doc, fault, stops, reached, failed, ended, left, by rw [left, unbuilt]⟩
  · rw [← hashes.obstacle?_eq] at resumed removed
    exact consolidate_resumed readable resumed removed

/-- A store that looks identities up by a hash, and that fails to write one of them. -/
def hashing : Setting where
  failures := (FailureRules.failing .standard [.string "x"] "Document failed validation").map
    fun rule => (Schema.target, rule)
  cadence := Schema.standardCadence

theorem hashesBy_hashing : hashing.targetRules.HashesBy .standard :=
  @FailureRules.hashesBy_failing .standard [.string "x"] "Document failed validation"

theorem readable_hashing : hashing.Readable :=
  Setting.readable_of_unhindered (by decide) (by simp [hashing, FailureRules.failing, FailureRule.hindersReading])

def unhashableArray : Fault := ⟨.badType, "unhashable type: 'list'"⟩

/-- An array and a document are identities in the second source. -/
def obstructedSpecimen : Database :=
  (specimen.put "snake" (.ofDocuments
    [[("_id", .string "x")], [("_id", .string "c")], [("_id", .array [.int 1])], [("_id", .string "b")],
      [("_id", .document [("a", .int 1)])]])).put "turtle" (.ofDocuments [[("_id", .int 7)]])

def withoutUnhashable (database : Database) : Database :=
  database.put "snake" (.ofDocuments [[("_id", .string "x")], [("_id", .string "c")], [("_id", .string "b")]])

theorem sources_obstructedSpecimen : obstructedSpecimen.sources =
    [⟨"logs_tetris", "tetris", true⟩, ⟨"snake", "snake", false⟩, ⟨"turtle", "turtle", false⟩] := by decide

theorem array_mem_obstructedSpecimen :
    [("_id", .array [.int 1])] ∈ (obstructedSpecimen.collection "snake").documents := by
  simp [obstructedSpecimen, collection_put_of_ne, Collection.ofDocuments]

theorem clearedTo_withoutUnhashable {database : Database} (alike : database.AlikeBesideTarget obstructedSpecimen)
    (names : database.names = database.withoutUnhashable.names) :
    database.ClearedTo database.withoutUnhashable (Document.hashFault? .standard) where
  names name _ := by rw [names]
  target := (collection_put_of_ne (by decide)).symm
  documents := by
    have kept : ∀ name, name ≠ Schema.target → name ≠ "snake" →
        database.withoutUnhashable.collection name = obstructedSpecimen.collection name :=
      fun name foreign other => (collection_put_of_ne other).trans (alike.collections name foreign)
    rw [alike.sources_eq, sources_obstructedSpecimen, List.forall_mem_cons, List.forall_mem_cons,
      List.forall_mem_singleton]
    refine ⟨?_, ?_, ?_⟩
    · rw [kept _ (by decide) (by decide), alike.collections _ (by decide)]
      rfl
    · rw [alike.collections _ (by decide), withoutUnhashable, collection_put_self]
      rfl
    · rw [kept _ (by decide) (by decide), alike.collections _ (by decide)]
      rfl

theorem consolidate_stops_and_recovers_specimen :
    hashing.Readable ∧ hashing.targetRules.HashesBy .standard ∧
      FirstObstacle (Document.hashFault? .standard) (obstructedSpecimen.collection "snake").documents
        [[("_id", .string "x")], [("_id", .string "c")]] [("_id", .array [.int 1])] unhashableArray ∧
      ((Source.copyTo ⟨"snake", "snake", false⟩ hashing Schema.target).run obstructedSpecimen).result =
        .error (.store unhashableArray) ∧
      ((Source.copyTo ⟨"snake", "snake", false⟩ hashing Schema.target).run obstructedSpecimen).state.collection
          Schema.target =
        ((Source.copyTo ⟨"adder", "snake", false⟩ hashing Schema.target).run
          (obstructedSpecimen.put "adder" (.ofDocuments
            [[("_id", .string "x")], [("_id", .string "c")]]))).state.collection Schema.target ∧
      (∃ earlier source before doc fault,
        obstructedSpecimen.StopsAt (Document.hashFault? .standard) earlier source before doc fault ∧
          ((consolidate hashing).run obstructedSpecimen).result = .error (.store fault)) ∧
      (((consolidate hashing).run obstructedSpecimen).state.collection Schema.target).documents.map
        (·.field Field.identity) = [.string "a", .int 1, .int 4, .string "c"] ∧
      ((consolidate hashing).run obstructedSpecimen).state.ClearedTo
        ((consolidate hashing).run obstructedSpecimen).state.withoutUnhashable (Document.hashFault? .standard) ∧
      obstructedSpecimen.ClearedTo obstructedSpecimen.withoutUnhashable (Document.hashFault? .standard) ∧
      (∀ delivery ∈ obstructedSpecimen.withoutUnhashable.deliveries, delivery.Proper) ∧
      (((consolidate hashing).run
          ((consolidate hashing).run obstructedSpecimen).state.withoutUnhashable).state.collection
            Schema.target).documents =
        (((consolidate hashing).run obstructedSpecimen.withoutUnhashable).state.collection Schema.target).documents ∧
      (((consolidate hashing).run obstructedSpecimen.withoutUnhashable).state.collection Schema.target).documents.map
        (·.field Field.identity) = [.string "a", .int 1, .int 4, .string "c", .string "b", .int 7] := by
  have obstacle : FirstObstacle (Document.hashFault? .standard) (obstructedSpecimen.collection "snake").documents
      [[("_id", .string "x")], [("_id", .string "c")]] [("_id", .array [.int 1])] unhashableArray := by
    refine ⟨⟨_, rfl⟩, rfl, ?_⟩
    rw [List.forall_mem_cons, List.forall_mem_singleton]
    exact ⟨rfl, rfl⟩
  have resumed := clearedTo_withoutUnhashable (alikeBesideTarget_consolidate obstructedSpecimen)
    (show ((consolidate hashing).run obstructedSpecimen).state.names = _ by decide)
  have removed := clearedTo_withoutUnhashable (.refl) (show obstructedSpecimen.names = _ by decide)
  have proper : ∀ delivery ∈ obstructedSpecimen.withoutUnhashable.deliveries, delivery.Proper := by decide
  obtain ⟨copies, consolidations⟩ := consolidate_stops_and_recovers .standard hashing readable_hashing
  obtain ⟨stops, recovers⟩ := consolidations hashesBy_hashing obstructedSpecimen
  obtain ⟨earlier, source, before, doc, fault, stopsAt, _, _, ended, _⟩ :=
    stops ⟨⟨"snake", "snake", false⟩, by rw [sources_obstructedSpecimen]; simp,
      [("_id", .array [.int 1])], array_mem_obstructedSpecimen, .array [.int 1], rfl, rfl⟩
  obtain ⟨_, copy⟩ := copies obstructedSpecimen ⟨"snake", "snake", false⟩ Schema.target hashesBy_hashing
  obtain ⟨failed, _, shorter⟩ := copy _ _ _ obstacle
  have same := (shorter (obstructedSpecimen.put "adder" (.ofDocuments
    [[("_id", .string "x")], [("_id", .string "c")]])) ⟨"adder", "snake", false⟩ rfl rfl rfl rfl).2
  exact ⟨readable_hashing, hashesBy_hashing, obstacle, failed, same,
    ⟨earlier, source, before, doc, fault, stopsAt, ended⟩, rfl, resumed, removed, proper,
    recovers _ _ resumed removed proper, rfl⟩

end Database
end GameLogs
