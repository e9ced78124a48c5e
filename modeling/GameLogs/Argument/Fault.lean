namespace GameLogs

/-! What is wrong with an argument that has not the expected kind. -/

inductive ArgumentFault where
  /-- A value that has no elements is to be gone through. -/
  | notIterable (kind : String)
  /-- A value that holds nothing is asked for a member. -/
  | noMembers (kind : String)
  | noAttribute (kind member : String)
  /-- A value that cannot be a member of a set. -/
  | unhashable (kind : String)
  | unorderable (left right : String)
  /-- What should be the beginning of a text is no text. -/
  | noBeginning (kind : String)
  /-- A text is asked whether it holds something that is no text. -/
  | noSubtext (kind : String)
  /-- A text is asked for a field. -/
  | fieldOfText
  /-- An array is asked for a field. -/
  | fieldOfArray
  /-- Bytes are asked whether they hold a text. -/
  | textInBytes
deriving DecidableEq, Repr

namespace ArgumentFault

def message : ArgumentFault → String
  | .notIterable kind => s!"'{kind}' object is not iterable"
  | .noMembers kind => s!"argument of type '{kind}' is not iterable"
  | .noAttribute kind member => s!"'{kind}' object has no attribute '{member}'"
  | .unhashable kind => s!"unhashable type: '{kind}'"
  | .unorderable left right =>
      s!"'<' not supported between instances of '{left}' and '{right}'"
  | .noBeginning kind => s!"startswith first arg must be str or a tuple of str, not {kind}"
  | .noSubtext kind => s!"'in <string>' requires string as left operand, not {kind}"
  | .fieldOfText => "string indices must be integers, not 'str'"
  | .fieldOfArray => "list indices must be integers or slices, not str"
  | .textInBytes => "a bytes-like object is required, not 'str'"

end ArgumentFault
end GameLogs
