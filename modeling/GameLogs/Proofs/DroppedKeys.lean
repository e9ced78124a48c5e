import GameLogs.Proofs.Ranking
import GameLogs.Proofs.Visibility
import Mathlib.Data.List.TakeWhile
namespace GameLogs

/-! The dropped keys in the report of a source.

Of all that a survey prints, the lines between the heading of a source and the next heading are its report.
The dropped keys that it lists are those under which a payload makes no difference in some document that was
read, ranked by the number of these documents.
-/

namespace Document

variable {doc : Document} {game : Value}

/-- The keys of the payload that are hidden, in its order. -/
def dropped (doc : Document) (game : Value) : List String :=
  (keys (doc.payload?.getD [])).filter fun key => decide (doc.Hides game key)

theorem hiddenKeys_eq_dropped (regular : doc.Regular) : doc.hiddenKeys = doc.dropped game := by
  rw [hiddenKeys_eq, dropped]
  refine List.filter_congr fun key member => decide_eq_decide.mpr ?_
  rw [← mem_hiddenKeys_iff regular.1, hiddenKeys_eq, List.mem_filter, decide_eq_true_eq, and_iff_right member]

end Document

namespace Notice

def headsReport : Notice → Bool
  | .reportHeading .. => true
  | _ => false

def headsReportOf (name : String) : Notice → Bool
  | .reportHeading source .. => source == name
  | _ => false

def listsDroppedKeys : Notice → Bool
  | .collisionsHeading | .collision .. => true
  | _ => false

/-- What is printed after the heading of a source and before the next one. -/
def reportOf (name : String) (notices : List Notice) : List Notice :=
  ((notices.dropWhile fun notice => !notice.headsReportOf name).tail).takeWhile fun notice => !notice.headsReport

/-- The report of a source from the first line on that is about dropped keys. -/
def droppedKeySection (name : String) (notices : List Notice) : List Notice :=
  (reportOf name notices).dropWhile fun notice => !notice.listsDroppedKeys

variable {name : String} {opening body following : List Notice} {heading : Notice}

theorem reportOf_eq (preceding : ∀ notice ∈ opening, notice.headsReportOf name = false)
    (headed : heading.headsReportOf name = true) (own : ∀ notice ∈ body, notice.headsReport = false)
    (next : ∀ notice ∈ following.head?, notice.headsReport = true) :
    reportOf name (opening ++ heading :: (body ++ following)) = body := by
  have skipped : opening.dropWhile (fun notice => !notice.headsReportOf name) = [] :=
    List.dropWhile_eq_nil_iff.mpr fun notice member => by simp [preceding notice member]
  have taken : body.takeWhile (fun notice => !notice.headsReport) = body :=
    List.takeWhile_eq_self_iff.mpr fun notice member => by simp [own notice member]
  have ended : following.takeWhile (fun notice => !notice.headsReport) = [] := by
    cases following with
    | nil => rfl
    | cons notice rest => simp [next notice rfl]
  rw [reportOf, List.dropWhile_append, skipped, List.isEmpty_nil, if_pos rfl, List.dropWhile_cons, headed]
  simp only [Bool.not_true, Bool.false_eq_true, if_false, List.tail_cons]
  rw [List.takeWhile_append, taken, if_pos rfl, ended, List.append_nil]

end Notice

namespace Source

variable {source : Source} {survey : Survey} {docs : List Document} {key : String}

/-- The report of a source below its heading. -/
def reportBody (source : Source) (survey : Survey) : List Notice := (source.reportNotices survey).tail

theorem reportNotices_eq : source.reportNotices survey =
    .reportHeading source.name source.game source.flatten :: source.reportBody survey := rfl

theorem headsReport_of_mem_droppedKeyNotices {counts : List (String × Int)} {notice : Notice}
    (member : notice ∈ droppedKeyNotices counts) : notice.headsReport = false := by
  unfold droppedKeyNotices at member
  split at member
  · cases member
  · rcases List.mem_cons.mp member with rfl | row
    · rfl
    · obtain ⟨entry, _, rfl⟩ := List.mem_map.mp row
      rfl

theorem headsReport_of_mem_reportBody {notice : Notice} (member : notice ∈ source.reportBody survey) :
    notice.headsReport = false := by
  simp only [reportBody, reportNotices, List.cons_append, List.tail_cons, List.nil_append, List.mem_cons,
    List.mem_append] at member
  rcases member with rfl | rfl | rfl | rfl | rfl | flat | listed
  case inr.inr.inr.inr.inr.inl =>
    split at flat
    · obtain rfl := List.mem_singleton.mp flat
      rfl
    · cases flat
  case inr.inr.inr.inr.inr.inr => exact headsReport_of_mem_droppedKeyNotices listed
  all_goals rfl

theorem dropWhile_reportBody : ((source.reportBody survey).dropWhile fun notice => !notice.listsDroppedKeys) =
    droppedKeyNotices (survey.hidden.map fun entry => (entry.1, (entry.2 : Int))) := by
  have listed : ∀ counts, (droppedKeyNotices counts).dropWhile (fun notice => !notice.listsDroppedKeys) =
      droppedKeyNotices counts := by
    intro counts
    cases counts <;> rfl
  rw [reportBody, reportNotices, List.cons_append, List.tail_cons]
  split <;> exact listed _

/-- The dropped keys of some documents, document by document. -/
def droppedFrom (source : Source) (docs : List Document) : List String :=
  docs.flatMap fun doc => doc.dropped (.string source.game)

theorem flatMap_droppedKeys (nested : source.flatten = true) (regular : ∀ doc ∈ docs, doc.Regular) :
    docs.flatMap source.droppedKeys = source.droppedFrom docs := by
  refine List.flatMap_congr fun doc member => ?_
  rw [droppedKeys_eq, if_pos nested]
  exact Document.hiddenKeys_eq_dropped (regular doc member)

theorem mem_droppedFrom_iff (regular : ∀ doc ∈ docs, doc.Regular) :
    key ∈ source.droppedFrom docs ↔ ∃ doc ∈ docs, doc.Hides (.string source.game) key := by
  rw [droppedFrom, List.mem_flatMap]
  refine exists_congr fun doc => and_congr_right fun member => ?_
  rw [← Document.hiddenKeys_eq_dropped (regular doc member), Document.mem_hiddenKeys_iff (regular doc member).1]

theorem count_droppedFrom (nested : source.flatten = true) (regular : ∀ doc ∈ docs, doc.Regular) :
    List.count key (source.droppedFrom docs) =
      docs.countP fun doc => decide (doc.Hides (.string source.game) key) := by
  rw [← flatMap_droppedKeys nested regular, ← count_hidden_surveyOf, count_hidden_eq regular, if_pos nested]

theorem hidden_surveyOf (nested : source.flatten = true) (regular : ∀ doc ∈ docs, doc.Regular) :
    (source.surveyOf docs).hidden = (source.droppedFrom docs).foldl KeyCounts.add [] := by
  rw [surveyOf_eq, flatMap_droppedKeys nested regular]

end Source

namespace Database

variable {setting : Setting} {database : Database} {source : Source} {limit : Int}

theorem reportOf_survey (readable : setting.Readable) (listed : source ∈ database.sources) :
    Notice.reportOf source.name ((survey setting.failures limit).run database).notices =
      source.reportBody (database.surveyed limit source).2 := by
  obtain ⟨earlier, later, divided⟩ := List.append_of_mem listed
  have distinct : (database.sources.map Source.name).Nodup := Classification.nodup_names_sources
  rw [divided, List.map_append, List.map_cons, List.nodup_append] at distinct
  obtain ⟨_, _, apart⟩ := distinct
  rw [run_survey readable, divided, List.flatMap_append, List.flatMap_cons, Source.reportNotices_eq,
    List.cons_append, ← List.append_assoc]
  refine Notice.reportOf_eq (fun notice member => ?_) (beq_self_eq_true source.name)
    (fun notice member => Source.headsReport_of_mem_reportBody member) fun notice member => ?_
  · rcases List.mem_append.mp member with opening | reported
    · simp only [List.mem_cons, List.not_mem_nil, or_false] at opening
      rcases opening with rfl | rfl
      all_goals rfl
    · obtain ⟨other, before, printed⟩ := List.mem_flatMap.mp reported
      have different : other.name ≠ source.name :=
        apart other.name (List.mem_map_of_mem before) source.name List.mem_cons_self
      rw [Source.reportNotices_eq] at printed
      rcases List.mem_cons.mp printed with rfl | below
      · exact beq_eq_false_iff_ne.mpr different
      · have plain := Source.headsReport_of_mem_reportBody below
        cases notice <;> first | rfl | cases plain
  · cases later with
    | nil => cases member
    | cons next rest =>
        rw [List.flatMap_cons, Source.reportNotices_eq] at member
        obtain rfl := Option.some.inj member
        rfl

/-- Of a source of nested documents the survey lists the keys under which a payload makes no difference in
some document that was read: each once, with the number of these documents, ranked by that number, and keys
with the same number in the order in which they were first dropped.  There is no list where no key is dropped. -/
theorem survey_lists_dropped_keys (readable : setting.Readable) (database : Database) (limit : Int)
    (nested : source ∈ (Classification.ofNames database.names).prefixed)
    (regular : ∀ doc ∈ Cursor.limited limit (database.collection source.name).documents, doc.Regular) :
    let read := Cursor.limited limit (database.collection source.name).documents
    let listed := Notice.droppedKeySection source.name ((survey setting.failures limit).run database).notices
    ∃ rows : List (String × Int),
      listed = (if rows = [] then [] else .collisionsHeading :: rows.map fun row => .collision row.1 row.2) ∧
      (rows.map Prod.fst).Nodup ∧
      (∀ key count, (key, count) ∈ rows ↔ (∃ doc ∈ read, doc.Hides (.string source.game) key) ∧
        count = read.countP fun doc => decide (doc.Hides (.string source.game) key)) ∧
      rows.Pairwise (fun first second => second.2 < first.2 ∨ first.2 = second.2 ∧
        (source.droppedFrom read).idxOf first.1 < (source.droppedFrom read).idxOf second.1) ∧
      (listed = [] ↔ ∀ doc ∈ read, ∀ key, ¬ doc.Hides (.string source.game) key) := by
  intro read listed
  have member : source ∈ database.sources := List.mem_append_left _ nested
  have flatten : source.flatten = true := (Classification.mem_prefixed_iff.mp nested).2.1
  have dropped : ∀ key, key ∈ source.droppedFrom read ↔ ∃ doc ∈ read, doc.Hides (.string source.game) key :=
    fun key => Source.mem_droppedFrom_iff regular
  have ranked := ranking_byDescendingCount (source.droppedFrom read)
  have counts : listed = droppedKeyNotices (((source.droppedFrom read).foldl KeyCounts.add []).map
      fun entry => (entry.1, (entry.2 : Int))) := by
    rw [← Source.hidden_surveyOf flatten regular, ← Source.dropWhile_reportBody]
    exact congrArg (List.dropWhile fun notice => !notice.listsDroppedKeys) (reportOf_survey readable member)
  generalize ((source.droppedFrom read).foldl KeyCounts.add []).map (fun entry => (entry.1, (entry.2 : Int))) =
    entries at ranked counts
  have shown : listed = if byDescendingCount entries = [] then [] else
      .collisionsHeading :: (byDescendingCount entries).map fun row => .collision row.1 row.2 := by
    simp only [counts, droppedKeyNotices, byDescendingCount_eq_nil_iff]
  have absent : listed = [] ↔ byDescendingCount entries = [] := by
    rw [shown]
    split <;> simp [*]
  refine ⟨byDescendingCount entries, shown, ranked.once, fun key count => ?_, ranked.ordered, ?_⟩
  · rw [ranked.mem_iff, dropped, Source.count_droppedFrom flatten regular]
  · rw [absent, ranked.eq_nil_iff]
    simp only [dropped]
    exact ⟨fun unmet doc among key hides => unmet key ⟨doc, among, hides⟩,
      fun visible key ⟨doc, among, hides⟩ => visible doc among key hides⟩

/-- A key that is dropped twice, three that are dropped once, and a third document behind the limit. -/
def rankedSpecimen : Database where
  collections :=
    [("snake", .ofDocuments [[("_id", .int 1)]]),
      ("logs_tetris", .ofDocuments
        [[("_id", .int 1), ("score", .null), ("level", .int 1),
            ("data", .document [("level", .int 2), ("mode", .int 1), ("score", .int 5)])],
          [("_id", .int 2), ("mode", .int 2), ("score", .int 1),
            ("data", .document [("mode", .int 2), ("score", .int 1), ("_id", .int 3)])],
          [("level", .int 3), ("data", .document [("level", .int 4)])]])]

theorem survey_lists_dropped_keys_specimen :
    let source : Source := ⟨"logs_tetris", "tetris", true⟩
    let read := Cursor.limited 2 (rankedSpecimen.collection "logs_tetris").documents
    let rows : List (String × Int) := [("score", 2), ("level", 1), ("mode", 1), ("_id", 1)]
    Setting.standard.Readable ∧ source ∈ (Classification.ofNames rankedSpecimen.names).prefixed ∧
      (∀ doc ∈ read, doc.Regular) ∧
      Notice.droppedKeySection "logs_tetris" ((survey Setting.standard.failures 2).run rankedSpecimen).notices =
        .collisionsHeading :: rows.map (fun row => .collision row.1 row.2) ∧
      (∀ key count, (key, count) ∈ rows ↔ (∃ doc ∈ read, doc.Hides (.string "tetris") key) ∧
        count = read.countP fun doc => decide (doc.Hides (.string "tetris") key)) ∧
      rows.Pairwise fun first second => second.2 < first.2 ∨ first.2 = second.2 ∧
        (source.droppedFrom read).idxOf first.1 < (source.droppedFrom read).idxOf second.1 := by
  intro source read rows
  have readable : Setting.standard.Readable := Setting.readable_of_unhindered (by decide) (by simp [Setting.standard])
  have nested : source ∈ (Classification.ofNames rankedSpecimen.names).prefixed := by decide
  have regular : ∀ doc ∈ read, doc.Regular := by decide
  obtain ⟨found, listed, _, counted, ordered, _⟩ := survey_lists_dropped_keys readable rankedSpecimen 2 nested regular
  have computed : Notice.droppedKeySection "logs_tetris"
      ((survey Setting.standard.failures 2).run rankedSpecimen).notices =
        .collisionsHeading :: rows.map (fun row => .collision row.1 row.2) := rfl
  have same : found = rows := by
    rw [computed] at listed
    split at listed
    case isTrue => cases listed
    case isFalse =>
      refine (List.map_injective_iff.mpr fun first second alike => ?_) (List.cons.inj listed).2.symm
      exact Prod.ext (Notice.collision.inj alike).1 (Notice.collision.inj alike).2
  rw [same] at counted ordered
  exact ⟨readable, nested, regular, computed, counted, ordered⟩

end Database
end GameLogs
