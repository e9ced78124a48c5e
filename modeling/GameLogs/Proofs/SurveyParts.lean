import GameLogs.Proofs.Survey
import Mathlib.Data.List.Induction
namespace GameLogs

/-! Surveys of the parts of a source.

The survey of documents in a row is the sum of those of its parts, so that what a limit leaves out can only
lower a figure.  The keys come in the order in which they were first met: those of the first part, then those
that are new in the second.
-/

namespace KeyCounts

variable {counts : KeyCounts} {keys : List String} {key : String}

theorem nodup_keys_addAll (distinct : counts.keys.Nodup) : (keys.foldl add counts).keys.Nodup := by
  induction keys generalizing counts with
  | nil => exact distinct
  | cons key rest ih => exact ih (Entries.nodup_keys_put distinct)

theorem keys_add : (counts.add key).keys = if key ∈ counts.keys then counts.keys else counts.keys ++ [key] :=
  Entries.keys_put

theorem keys_addAll : (keys.foldl add counts).keys =
    counts.keys ++ (keys.foldl add []).keys.filter fun key => decide (key ∉ counts.keys) := by
  -- The last key is met after all others, in the row that starts empty as well as in the one that does not.
  induction keys using List.reverseRecOn with
  | nil => simp [Entries.keys]
  | append_singleton earlier key ih =>
      rw [List.foldl_append, List.foldl_append, List.foldl_cons, List.foldl_cons, List.foldl_nil, List.foldl_nil,
        keys_add, keys_add, ih]
      by_cases here : key ∈ counts.keys
      · by_cases met : key ∈ (earlier.foldl add []).keys <;> simp [here, met]
      · by_cases met : key ∈ (earlier.foldl add []).keys <;> simp [here, met]

end KeyCounts

namespace Survey

variable {survey first second : Survey}

/-- The survey of a whole adds up those of its two parts, figure by figure and key by key. -/
structure IsSum (survey first second : Survey) : Prop where
  documents : survey.documents = first.documents + second.documents
  payloads : survey.payloads = first.payloads + second.payloads
  otherGames : survey.otherGames = first.otherGames + second.otherGames
  anonymous : survey.anonymous = first.anonymous + second.anonymous
  keys : survey.hidden.keys =
    first.hidden.keys ++ second.hidden.keys.filter fun key => decide (key ∉ first.hidden.keys)
  count : ∀ key, survey.hidden.count key = first.hidden.count key + second.hidden.count key

/-- No figure of the one is greater than that of the other. -/
structure AtMost (first second : Survey) : Prop where
  documents : first.documents ≤ second.documents
  payloads : first.payloads ≤ second.payloads
  otherGames : first.otherGames ≤ second.otherGames
  anonymous : first.anonymous ≤ second.anonymous
  count : ∀ key, first.hidden.count key ≤ second.hidden.count key

theorem IsSum.atMost (sum : survey.IsSum first second) : first.AtMost survey where
  documents := by rw [sum.documents]; exact Nat.le_add_right _ _
  payloads := by rw [sum.payloads]; exact Nat.le_add_right _ _
  otherGames := by rw [sum.otherGames]; exact Nat.le_add_right _ _
  anonymous := by rw [sum.anonymous]; exact Nat.le_add_right _ _
  count key := by rw [sum.count]; exact Nat.le_add_right _ _

end Survey

namespace Source

variable {source : Source} {first second docs others : List Document} {rules : FailureRules}
  {collection : Collection}

theorem isSum_surveyOf_append :
    (source.surveyOf (first ++ second)).IsSum (source.surveyOf first) (source.surveyOf second) where
  documents := by simp only [surveyOf_eq, List.length_append]
  payloads := by simp only [surveyOf_eq, List.countP_append]
  otherGames := by simp only [surveyOf_eq, List.countP_append]
  anonymous := by simp only [surveyOf_eq, List.countP_append]
  keys := by
    simp only [surveyOf_eq, List.flatMap_append, List.foldl_append]
    exact KeyCounts.keys_addAll
  count key := by rw [count_hidden_surveyOf, List.flatMap_append, List.count_append, count_hidden_surveyOf,
    count_hidden_surveyOf]

theorem nodup_keys_hidden_surveyOf : (source.surveyOf docs).hidden.keys.Nodup := by
  rw [surveyOf_eq]
  exact KeyCounts.nodup_keys_addAll List.nodup_nil

theorem atMost_surveyOf_of_prefix (short : docs <+: others) : (source.surveyOf docs).AtMost (source.surveyOf others) := by
  obtain ⟨rest, rfl⟩ := short
  exact isSum_surveyOf_append.atMost

/-- The survey of a source whose documents are those of two others in a row is the sum of theirs.  A positive
limit comes to a survey of so many first documents, a negative one to a survey of all but so many last ones.
A greater positive limit, or none, lowers no figure. -/
theorem survey_additive (source : Source) (rules : FailureRules) (found : rules.findFault? = none)
    (read : ∀ position, rules.cursorFault? position = none) :
    let stats (collection : Collection) (limit : Int) := ((source.survey rules limit).run collection).result
    (∀ first second whole : Collection, whole.documents = first.documents ++ second.documents →
      ∃ earlier later total, stats first 0 = .ok earlier ∧ stats second 0 = .ok later ∧
        stats whole 0 = .ok total ∧ total.IsSum earlier later ∧ total.hidden.keys.Nodup) ∧
    (∀ (whole part : Collection) (count : Nat), 0 < count →
      (part.documents = whole.documents.take count → stats whole count = stats part 0) ∧
      (part.documents = whole.documents.take (whole.documents.length - count) →
        stats whole (-count) = stats part 0)) ∧
    ∀ (whole : Collection) (count greater : Nat), 0 < count → count ≤ greater →
      ∃ few more all, stats whole count = .ok few ∧ stats whole greater = .ok more ∧ stats whole 0 = .ok all ∧
        few.AtMost more ∧ few.AtMost all := by
  have ran : ∀ (limit : Int) (collection : Collection),
      (source.survey rules limit).run collection =
        ⟨.ok (source.surveyOf (Cursor.limited limit collection.documents)), collection, []⟩ :=
    fun _ _ => run_survey found read
  simp only [ran, Cursor.limited_zero]
  refine ⟨fun first second whole joined => ?_, fun whole part count positive => ⟨fun shorter => ?_, fun shorter => ?_⟩,
    fun whole count greater positive ordered => ?_⟩
  · refine ⟨_, _, _, rfl, rfl, rfl, ?_, nodup_keys_hidden_surveyOf⟩
    rw [joined]
    exact isSum_surveyOf_append
  · rw [Cursor.limited_of_pos positive, shorter]
  · rw [Cursor.limited_of_neg positive, shorter]
  · rw [Cursor.limited_of_pos positive, Cursor.limited_of_pos (positive.trans_le ordered)]
    refine ⟨_, _, _, rfl, rfl, rfl, atMost_surveyOf_of_prefix ?_, atMost_surveyOf_of_prefix ?_⟩
    · exact List.take_prefix_take_left ordered
    · exact List.take_prefix count _

def firstPart : List Document :=
  [[("_id", .int 1), ("score", .int 5), ("level", .int 1), ("data", .document [("level", .int 2), ("score", .int 3)])],
    [("game", .string "go")]]

/-- One of its hidden keys has been met in the first part, the others are new. -/
def secondPart : List Document :=
  [[("_id", .int 2), ("mode", .null), ("score", .int 1),
    ("data", .document [("mode", .int 1), ("score", .int 2), ("_id", .int 3)])]]

theorem survey_additive_specimen :
    let source : Source := ⟨"logs_tetris", "tetris", true⟩
    let rules : FailureRules := [.update ⟨.operation, "interrupted at shutdown"⟩]
    let whole : Collection := .ofDocuments (firstPart ++ secondPart)
    let stats (collection : Collection) (limit : Int) := ((source.survey rules limit).run collection).result
    rules.findFault? = none ∧ (∀ position, rules.cursorFault? position = none) ∧
      (∃ earlier later total, stats (.ofDocuments firstPart) 0 = .ok earlier ∧
        stats (.ofDocuments secondPart) 0 = .ok later ∧ stats whole 0 = .ok total ∧ total.IsSum earlier later ∧
        total.hidden = [("level", 1), ("score", 2), ("mode", 1), ("_id", 1)]) ∧
      stats whole 2 = stats (.ofDocuments firstPart) 0 ∧
      stats whole (-1) = stats (.ofDocuments firstPart) 0 ∧
      ∃ few more, stats whole 1 = .ok few ∧ stats whole 2 = .ok more ∧ few.AtMost more := by
  intro source rules whole stats
  have found : rules.findFault? = none := rfl
  have read : ∀ position, rules.cursorFault? position = none := fun _ => rfl
  obtain ⟨sums, limits, grows⟩ := survey_additive source rules found read
  obtain ⟨earlier, later, total, first, second, joined, sum, _⟩ :=
    sums (.ofDocuments firstPart) (.ofDocuments secondPart) whole rfl
  obtain ⟨few, more, _, fewer, greater, _, ordered, _⟩ := grows whole 1 2 (by decide) (by decide)
  have computed : stats whole 0 = .ok ⟨3, 2, [("level", 1), ("score", 2), ("mode", 1), ("_id", 1)], 1, 1⟩ := rfl
  have hidden : total.hidden = [("level", 1), ("score", 2), ("mode", 1), ("_id", 1)] := by
    rw [← Except.ok.inj (computed.symm.trans joined)]
  exact ⟨found, read, ⟨earlier, later, total, first, second, joined, sum, hidden⟩,
    (limits whole (.ofDocuments firstPart) 2 (by decide)).1 rfl,
    (limits whole (.ofDocuments firstPart) 1 (by decide)).2 rfl, few, more, fewer, greater, ordered⟩

end Source
end GameLogs
