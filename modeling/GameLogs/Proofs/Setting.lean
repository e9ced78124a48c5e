import GameLogs.Proofs.Insertion
import GameLogs.Store.Database
namespace GameLogs

/-! Settings under which a consolidation comes to its end.

Reading never fails in them.  Insertions and indexes may be refused, as long as the faults are of the
kinds that a consolidation expects.
-/

theorem FailurePlan.exists_entry_of_mem {plan : FailurePlan} {name : String} {rule : FailureRule}
    (member : rule ∈ plan.of name) : ∃ entry ∈ plan, entry.2 = rule := by
  obtain ⟨entry, listed, same⟩ := List.mem_map.mp member
  exact ⟨entry, (List.mem_filter.mp listed).1, same⟩

def FailureRule.hindersReading : FailureRule → Bool
  | .count _ | .find _ | .cursor _ _ => true
  | _ => false

namespace Setting

abbrev targetRules (setting : Setting) : FailureRules := setting.failures.of Schema.target

/-- No collection fails to be read, and progress is shown in steps that are not zero. -/
structure Readable (setting : Setting) : Prop where
  cadence : setting.cadence ≠ 0
  count : ∀ name, (setting.failures.of name).countFault? = none
  find : ∀ name, (setting.failures.of name).findFault? = none
  cursor : ∀ name position, (setting.failures.of name).cursorFault? position = none

/-- Nothing fails but insertions into the target and the building of its indexes, and these only with
faults that a consolidation survives. -/
structure Orderly (setting : Setting) : Prop extends setting.Readable where
  distinct : setting.targetRules.distinctFault? = none
  insertion : setting.targetRules.Tolerable
  index : ∀ name fault, setting.targetRules.indexFault? name = some fault → fault.kind.isStore = true

theorem readable_of_unhindered {setting : Setting} (cadenced : setting.cadence ≠ 0)
    (unhindered : ∀ entry ∈ setting.failures, entry.2.hindersReading = false) : setting.Readable := by
  have spared : ∀ name, ∀ rule ∈ setting.failures.of name, rule.hindersReading = false := by
    intro name rule member
    obtain ⟨entry, listed, rfl⟩ := FailurePlan.exists_entry_of_mem member
    exact unhindered entry listed
  refine ⟨cadenced, fun name => ?_, fun name => ?_, fun name position => ?_⟩ <;>
    refine List.findSome?_eq_none_iff.mpr fun rule member => ?_ <;>
    have free := spared name rule member <;>
    cases rule <;> first | rfl | cases free

/-- The target refuses some identities and some indexes, and nothing else fails. -/
def refusing (identities : List Value) (indexes : List String) : Setting where
  failures :=
    identities.map (fun identity =>
        (Schema.target, .insert identity ⟨.write, "Document failed validation"⟩)) ++
      indexes.map fun name => (Schema.target, .index name ⟨.operation, "Index build failed: " ++ name⟩)
  cadence := Schema.standardCadence

variable {identities : List Value} {indexes : List String}

private theorem rule_of_mem_failures {entry : String × FailureRule}
    (listed : entry ∈ (refusing identities indexes).failures) :
    (∃ identity, entry.2 = .insert identity ⟨.write, "Document failed validation"⟩) ∨
      ∃ index, entry.2 = .index index ⟨.operation, "Index build failed: " ++ index⟩ := by
  rcases List.mem_append.mp listed with refusal | failure
  · obtain ⟨identity, _, rfl⟩ := List.mem_map.mp refusal
    exact Or.inl ⟨identity, rfl⟩
  · obtain ⟨index, _, rfl⟩ := List.mem_map.mp failure
    exact Or.inr ⟨index, rfl⟩

private theorem rule_of_mem_refusing {name : String} {rule : FailureRule}
    (member : rule ∈ (refusing identities indexes).failures.of name) :
    (∃ identity, rule = .insert identity ⟨.write, "Document failed validation"⟩) ∨
      ∃ index, rule = .index index ⟨.operation, "Index build failed: " ++ index⟩ := by
  obtain ⟨entry, listed, rfl⟩ := FailurePlan.exists_entry_of_mem member
  exact rule_of_mem_failures listed

theorem orderly_refusing : (refusing identities indexes).Orderly where
  toReadable := by
    refine readable_of_unhindered (by simp [refusing, Schema.standardCadence]) fun entry listed => ?_
    rcases rule_of_mem_failures listed with ⟨_, same⟩ | ⟨_, same⟩ <;> rw [same] <;> rfl
  distinct := by
    refine List.findSome?_eq_none_iff.mpr fun rule member => ?_
    rcases rule_of_mem_refusing member with ⟨_, rfl⟩ | ⟨_, rfl⟩ <;> rfl
  insertion := by
    intro identity fault refused
    obtain ⟨rule, member, found⟩ := List.exists_of_findSome?_eq_some refused
    rcases rule_of_mem_refusing member with ⟨_, rfl⟩ | ⟨_, rfl⟩
    · obtain ⟨_, rfl⟩ := Option.ite_some_none_eq_some.mp found
      rfl
    · cases found
  index := by
    intro name fault refused
    obtain ⟨rule, member, found⟩ := List.exists_of_findSome?_eq_some refused
    rcases rule_of_mem_refusing member with ⟨_, rfl⟩ | ⟨_, rfl⟩
    · cases found
    · obtain ⟨_, rfl⟩ := Option.ite_some_none_eq_some.mp found
      rfl

end Setting
end GameLogs
