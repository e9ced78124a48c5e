import GameLogs.Argument.Value
namespace GameLogs.Argument

/-! The order of values that may be of any kind.

Not all values can be compared, and a refusal names the first two that are compared in vain.  So the
order of the comparisons is a part of the rule: a row begins with a run that is in order, or in
strictly reversed order, and every further value is put into its place by halving.
-/

def number? (value : Value) : Option Rat :=
  match value.content? with
  | some (.quantity number) => some number
  | _ => none

/-- Whether a value comes before another one: texts and numbers are ordered among themselves. -/
def comesBefore (left right : Value) : Except ArgumentFault Bool :=
  match left, right with
  | .string a, .string b => .ok (decide (a < b))
  | _, _ =>
      match number? left, number? right with
      | some a, some b => .ok (decide (a < b))
      | _, _ => .error (.unorderable left.kindName right.kindName)

/-- The values that go on in the direction of a run, and the others. -/
def splitRun (reversed : Bool) (last : Value) :
    List Value → Except ArgumentFault (List Value × List Value)
  | [] => .ok ([], [])
  | next :: rest => do
      if (← comesBefore next last) == reversed then
        let (run, others) ← splitRun reversed next rest
        return (next :: run, others)
      else return ([], next :: rest)

def firstRun : List Value → Except ArgumentFault (List Value × List Value)
  | first :: second :: rest => do
      let reversed ← comesBefore second first
      let (run, others) ← splitRun reversed second rest
      let run := first :: second :: run
      return (if reversed then run.reverse else run, others)
  | row => .ok (row, [])

/-- Puts a value behind the values of an ascending row that it does not come before.  Every call
halves the row, so its length is enough fuel. -/
def insertByHalving (value : Value) : Nat → List Value → Except ArgumentFault (List Value)
  | 0, row => .ok (value :: row)
  | fuel + 1, row =>
      match row.drop (row.length / 2) with
      | [] => .ok [value]
      | middle :: back => do
          let front := row.take (row.length / 2)
          if ← comesBefore value middle then
            return (← insertByHalving value fuel front) ++ middle :: back
          else return front ++ middle :: (← insertByHalving value fuel back)

def ascending (row : List Value) : Except ArgumentFault (List Value) := do
  let (run, others) ← firstRun row
  others.foldlM (fun sorted value => insertByHalving value sorted.length sorted) run

end GameLogs.Argument
