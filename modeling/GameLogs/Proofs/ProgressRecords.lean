import GameLogs.Proofs.Consolidation
import GameLogs.Proofs.Tallies
namespace GameLogs

/-! What a copy shows on the output, while it goes on and when it ends.

A record of the progress is told each time the pace divides the number of documents that have been read.
The records of a whole source are those of the multiples of the pace up to its size.
-/

/-- The numbers of documents at which progress is shown. -/
def milestones (pace size : Nat) : List Nat := (List.range' 1 (size / pace)).map fun k => pace * k

section

variable {pace size count : Nat}

theorem milestones_succ :
    milestones pace (size + 1) = milestones pace size ++ if pace ∣ size + 1 then [size + 1] else [] := by
  rw [milestones, milestones, Nat.succ_div]
  split
  case isTrue divides =>
    have reached : pace * (1 + size / pace) = size + 1 := by
      rw [Nat.add_comm, ← Nat.succ_div_of_dvd divides, Nat.mul_div_cancel' divides]
    rw [List.range'_1_concat, List.map_append, List.map_singleton, reached]
  case isFalse => rw [Nat.add_zero, List.append_nil]

theorem filter_dvd_range' :
    (List.range' 1 size).filter (fun count => pace ∣ count) = milestones pace size := by
  induction size with
  | zero => simp [milestones]
  | succ size ih =>
      rw [List.range'_1_concat, List.filter_append, ih, milestones_succ, Nat.add_comm 1 size]
      by_cases divides : pace ∣ size + 1 <;> simp [divides]

theorem mem_milestones_bounds (positive : 0 < pace) (member : count ∈ milestones pace size) :
    0 < count ∧ count ≤ size := by
  obtain ⟨k, within, rfl⟩ := List.mem_map.mp member
  obtain ⟨least, most⟩ := List.mem_range'_1.mp within
  refine ⟨Nat.mul_pos positive least, ?_⟩
  calc pace * k ≤ pace * (size / pace) := Nat.mul_le_mul_left pace (by omega)
    _ ≤ size := Nat.mul_div_le size pace

theorem milestones_eq_nil_iff (positive : 0 < pace) : milestones pace size = [] ↔ size < pace := by
  rw [milestones, List.map_eq_nil_iff, List.range'_eq_nil_iff, Nat.div_eq_zero_iff]
  omega

theorem pairwise_milestones : (milestones pace size).Pairwise (· ≤ ·) := by
  rw [milestones, List.pairwise_map]
  exact (List.pairwise_lt_range').imp fun smaller => Nat.mul_le_mul_left pace (Nat.le_of_lt smaller)

theorem getLast?_milestones (counted : 0 < size) (divides : pace ∣ size) :
    (milestones pace size).getLast? = some size := by
  obtain ⟨before, rfl⟩ := Nat.exists_eq_add_one_of_ne_zero (Nat.ne_of_gt counted)
  rw [milestones_succ, if_pos divides, List.getLast?_concat]

end

namespace Notice

variable {notices others : List Notice} {count total pace : Nat}

def output (notices : List Notice) : List Notice := notices.filter fun notice => notice.channel == .output

theorem output_append : output (notices ++ others) = output notices ++ output others :=
  List.filter_append _ _

theorem printed_output : printed .output notices = String.join ((output notices).map text) := rfl

theorem percentage_le_hundred (within : count ≤ total) : percentage count total ≤ 100 :=
  Nat.div_le_of_le_mul (Nat.mul_le_mul_right 100 within)

theorem percentage_self (counted : 0 < total) : percentage total total = 100 :=
  Nat.mul_div_cancel_left 100 counted

theorem pairwise_percentages :
    ((milestones pace total).map fun count => percentage count total).Pairwise (· ≤ ·) := by
  rw [List.pairwise_map]
  exact pairwise_milestones.imp fun smaller => Nat.div_le_div_right (Nat.mul_le_mul_right 100 smaller)

end Notice

namespace Source

variable {source : Source} {rules : FailureRules} {cadence : Int} {pace total count : Nat} {target : Collection}
  {tally : Tally} {doc : Document} {docs : List Document} {insertion : Insertion}

theorem output_warnings : Notice.output (source.warnings doc insertion) = [] := by
  cases insertion <;> rfl

theorem output_progressNotices (counted : total ≠ 0) :
    Notice.output (source.progressNotices pace count total) =
      if pace ∣ count then [.progress source.name count total] else [] := by
  have divided : (count : Int) % pace = 0 ↔ pace ∣ count := by
    rw [← Int.dvd_iff_emod_eq_zero, Int.natCast_dvd_natCast]
  rw [progressNotices]
  simp only [ne_eq, counted, not_false_eq_true, true_and, divided]
  split <;> rfl

/-- Whether a record is told depends on the number of a document alone, not on what becomes of it. -/
theorem output_copyingNotices (counted : total ≠ 0) {pairs : List (Document × Insertion)} :
    Notice.output (source.copyingNotices pace total count pairs) =
      ((List.range' (count + 1) pairs.length).filter fun number => pace ∣ number).map
        fun number => .progress source.name number total := by
  induction pairs generalizing count with
  | nil => rfl
  | cons pair rest ih =>
      rw [copyingNotices, Notice.output_append, Notice.output_append, output_warnings, List.nil_append,
        output_progressNotices counted, ih, List.length_cons, List.range'_succ, List.filter_cons]
      by_cases divides : pace ∣ count + 1 <;> simp [divides]

theorem output_closingNotices :
    Notice.output (source.closingNotices cadence count tally) = source.closingNotices cadence count tally := by
  rw [closingNotices, Notice.output_append, Notice.output_append]
  split <;> split <;> rfl

/-- What the output shows of a copy that comes to its end. -/
def outputNotices (source : Source) (pace size : Nat) (tally : Tally) : List Notice :=
  (milestones pace size).map (fun count => .progress source.name count size) ++
    (if milestones pace size = [] then [] else [.blank]) ++
    [.sourceMigrated source.name tally.migrated tally.skipped] ++
    (if 0 < tally.errors then [.sourceErrors source.name tally.errors] else [])

/-- The line break is given for the number of documents, which asks for it where there has been a record. -/
theorem closingNotices_eq (positive : 0 < pace) : source.closingNotices pace count tally =
    (if milestones pace count = [] then [] else [.blank]) ++
      ([.sourceMigrated source.name tally.migrated tally.skipped] ++
        (if 0 < tally.errors then [.sourceErrors source.name tally.errors] else [])) := by
  have shown : milestones pace count = [] ↔ ¬ (pace : Int) ≤ count :=
    (milestones_eq_nil_iff positive).trans (by omega)
  rw [closingNotices, List.append_assoc]
  simp only [shown, ite_not, Nat.pos_iff_ne_zero, ne_eq]

theorem output_notices (positive : 0 < pace) : Notice.output (source.notices rules pace target docs) =
    source.outputNotices pace docs.length (target.tally rules (docs.map (Delivery.mk source))) := by
  rw [notices, Notice.output_append, output_closingNotices, closingNotices_eq positive, outputNotices,
    List.append_assoc, List.append_assoc]
  congr 1
  -- An empty source shows nothing because its total is zero; for the others the pace alone decides.
  cases docs with
  | nil =>
      rw [List.length_nil, (milestones_eq_nil_iff positive).mpr positive]
      rfl
  | cons doc rest =>
      have counted : (doc :: rest).length ≠ 0 := Nat.succ_ne_zero _
      rw [output_copyingNotices counted, List.length_zip, Collection.length_verdicts, List.length_map,
        Nat.min_self, filter_dvd_range']

theorem pos_of_progress_mem (positive : 0 < pace) {name : String} {number : Nat}
    (member : .progress name number total ∈ source.outputNotices pace count tally) : 0 < total := by
  simp only [outputNotices, List.mem_append, List.mem_map, List.mem_singleton] at member
  rcases member with ((⟨milestone, shown, same⟩ | broken) | summary) | failed
  · obtain ⟨_, rfl, rfl⟩ := Notice.progress.inj same
    have bounds := mem_milestones_bounds positive shown
    exact Nat.lt_of_lt_of_le bounds.1 bounds.2
  · split at broken <;> simp at broken
  · cases summary
  · split at failed <;> simp at failed

end Source

/-- Of documents that fail all but the first, the first one alone can be migrated. -/
theorem Collection.tally_of_first_accepted {target : Collection} {rules : FailureRules} {first : Delivery}
    {rest : List Delivery} (accepted : target.accepts rules first.canonical = true)
    (failing : ∀ delivery ∈ rest, delivery.failsUnder rules = true) :
    target.tally rules (first :: rest) = ⟨1, 0, rest.length⟩ := by
  have total := @total_tally target rules (first :: rest)
  have errors := @errors_tally target rules (first :: rest)
  have migrated := @migrated_tally_cons target rules first rest
  rw [List.countP_cons, List.countP_eq_length.mpr failing] at errors
  rw [if_pos accepted] at migrated
  rw [List.length_cons] at total
  generalize target.tally rules (first :: rest) = tally at total errors migrated ⊢
  cases tally
  simp only [Tally.total, Tally.mk.injEq] at *
  omega

namespace Database

variable {setting : Setting} {database : Database} {source : Source} {target : String} {pace : Nat}

theorem output_copyTo (readable : setting.Readable) (paced : setting.cadence = pace) (positive : 0 < pace)
    (clear : ∀ doc ∈ (database.collection source.name).documents,
      doc.obstacle? (setting.failures.of target) = none) :
    Notice.output ((source.copyTo setting target).run database).notices =
      source.outputNotices pace (database.collection source.name).documents.length
        ((database.collection target).tally (setting.failures.of target) (database.batch source)) := by
  rw [run_copyTo_of_clear readable clear, paced]
  exact Source.output_notices positive

/-- The output of a copy whose source has no obstacle is a record of the progress for every thousand documents
of the source, in their order and with the share in whole percent; then a line break, if there was a record;
then the line with what was migrated and skipped; and then, if there were errors, the line with their
number.  The shares grow from record to record up to at most a hundred percent, which the last one shows if
the source ends with it.  No share is taken of nothing. -/
theorem copyTo_shows_progress (readable : setting.Readable) (paced : setting.cadence = Schema.standardCadence)
    (clear : ∀ doc ∈ (database.collection source.name).documents,
      doc.obstacle? (setting.failures.of target) = none) :
    let size := (database.collection source.name).documents.length
    let counts := (List.range' 1 (size / 1000)).map fun k => 1000 * k
    let shares := counts.map fun count => count * 100 / size
    let outcome := (source.copyTo setting target).run database
    ∃ tally, outcome.result = .ok tally ∧
      Notice.output outcome.notices =
        counts.map (fun count => .progress source.name count size) ++
          (if counts = [] then [] else [.blank]) ++
          [.sourceMigrated source.name tally.migrated tally.skipped] ++
          (if 0 < tally.errors then [.sourceErrors source.name tally.errors] else []) ∧
      Notice.printed .output outcome.notices = String.join
        (counts.map (fun count : Nat => "\r\x1b[K⏳ " ++ source.name ++ ": " ++ Text.grouped count ++ "/" ++
            Text.grouped size ++ " " ++ ("(" ++ toString (count * 100 / size) ++ "%)")) ++
          (if counts = [] then [] else ["\n"]) ++
          [source.name ++ ": migrated=" ++ toString tally.migrated ++ ", skipped=" ++
            toString tally.skipped ++ "\n"] ++
          (if 0 < tally.errors then
            ["   ❌ " ++ source.name ++ ": errors=" ++ toString tally.errors ++ " (revisar detalle arriba)\n"]
          else [])) ∧
      shares.Pairwise (· ≤ ·) ∧ (∀ share ∈ shares, share ≤ 100) ∧
      (0 < size → size % 1000 = 0 → shares.getLast? = some 100) ∧
      ∀ name count total, .progress name count total ∈ outcome.notices → 0 < total := by
  intro size counts shares outcome
  have told := @output_copyTo setting database source target 1000 readable paced (by decide) clear
  refine ⟨_, congrArg Outcome.result (run_copyTo_of_clear readable clear), told, ?_,
    Notice.pairwise_percentages, ?_, ?_, ?_⟩
  · rw [Notice.printed_output, told, Source.outputNotices]
    simp only [List.map_append, List.map_map, apply_ite (List.map Notice.text)]
    rfl
  · refine List.forall_mem_map.mpr fun count member => Notice.percentage_le_hundred ?_
    exact (mem_milestones_bounds (by decide) member).2
  · intro counted divides
    have last := getLast?_milestones counted (Nat.dvd_of_mod_eq_zero divides)
    rw [List.getLast?_map, show counts.getLast? = some size from last, Option.map_some]
    exact congrArg some (Notice.percentage_self counted)
  · intro name count total member
    have shown : .progress name count total ∈ Notice.output outcome.notices :=
      List.mem_filter.mpr ⟨member, rfl⟩
    rw [told] at shown
    exact Source.pos_of_progress_mem (by decide) shown

/-- A source of two thousand documents, of which only the first has an identity. -/
def crowdedSpecimen : Database :=
  specimen.put "snake" (.ofDocuments ([("_id", .int 1)] :: List.replicate 1999 [("score", .int 1)]))

theorem documents_crowdedSpecimen : (crowdedSpecimen.collection "snake").documents =
    [("_id", .int 1)] :: List.replicate 1999 [("score", .int 1)] := by
  rw [crowdedSpecimen, collection_put_self]
  rfl

theorem tally_crowdedSpecimen :
    (crowdedSpecimen.collection Schema.target).tally (Setting.refusing [.int 4] []).targetRules
      (crowdedSpecimen.batch ⟨"snake", "snake", false⟩) = ⟨1, 0, 1999⟩ := by
  rw [batch, documents_crowdedSpecimen, List.map_cons, List.map_replicate]
  refine (Collection.tally_of_first_accepted (by decide) ?_).trans (by rw [List.length_replicate])
  intro delivery member
  rw [List.eq_of_mem_replicate member]
  rfl

theorem copyTo_shows_progress_specimen :
    (Setting.refusing [.int 4] []).Readable ∧
      (Setting.refusing [.int 4] []).cadence = Schema.standardCadence ∧
      (∀ doc ∈ (crowdedSpecimen.collection "snake").documents,
        doc.obstacle? ((Setting.refusing [.int 4] []).failures.of Schema.target) = none) ∧
      Notice.printed .output ((Source.copyTo ⟨"snake", "snake", false⟩ (.refusing [.int 4] [])
          Schema.target).run crowdedSpecimen).notices =
        "\r\x1b[K⏳ snake: 1,000/2,000 (50%)\r\x1b[K⏳ snake: 2,000/2,000 (100%)\n" ++
          "snake: migrated=1, skipped=0\n   ❌ snake: errors=1999 (revisar detalle arriba)\n" := by
  have size : (crowdedSpecimen.collection "snake").documents.length = 2000 := by
    rw [documents_crowdedSpecimen, List.length_cons, List.length_replicate]
  have clear : ∀ doc ∈ (crowdedSpecimen.collection "snake").documents,
      doc.obstacle? ((Setting.refusing [.int 4] []).failures.of Schema.target) = none :=
    fun doc _ => Setting.orderly_refusing.insertion.obstacle?_eq_none doc
  have readable := (@Setting.orderly_refusing [.int 4] []).toReadable
  obtain ⟨tally, ended, _, printed, _⟩ := @copyTo_shows_progress (.refusing [.int 4] []) crowdedSpecimen
    ⟨"snake", "snake", false⟩ Schema.target readable rfl clear
  have counted : tally = ⟨1, 0, 1999⟩ := by
    rw [run_copyTo_of_clear readable clear] at ended
    exact (Except.ok.inj ended).symm.trans tally_crowdedSpecimen
  refine ⟨readable, rfl, clear, printed.trans ?_⟩
  rw [size, counted]
  decide +kernel

end Database
end GameLogs
