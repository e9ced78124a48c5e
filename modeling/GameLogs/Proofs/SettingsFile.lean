import GameLogs.Proofs.SettingsLines
import Mathlib.Data.List.Induction
namespace GameLogs

/-! Connections read from a settings file and the environment.

A variable has the value of the last line that names it, if that line has a `=`, and the environment's value
otherwise.  A value that is empty counts as a value for the parts of an address, and as none for an address and
for a database.
-/

inductive LineBreak where
  | newline
  | carriageReturn

def LineBreak.chars : LineBreak → List Char
  | .newline => ['\n']
  | .carriageReturn => ['\r', '\n']

/-- Lines that each end with a line break, and what follows the last line break. -/
structure SettingsFile where
  ended : List (SettingsLine × LineBreak)
  last : SettingsLine

namespace SettingsFile

def lines (file : SettingsFile) : List SettingsLine := file.ended.map Prod.fst ++ [file.last]

def chars (file : SettingsFile) : List Char :=
  (file.ended.flatMap fun line => line.1.chars ++ line.2.chars) ++ file.last.chars

def text (file : SettingsFile) : String := String.ofList file.chars

def Supported (file : SettingsFile) : Prop := ∀ line ∈ file.lines, line.Supported

instance {file : SettingsFile} : Decidable file.Supported := List.decidableBAll _ file.lines

end SettingsFile

/-- The value of a variable: of the last line that names it, if that line sets it, and otherwise of the
environment. -/
def SettingsFile.value? (file : SettingsFile) (environment : Environment) (name : String) : Option String :=
  let naming := (file.lines.filterMap SettingsLine.binding?).filter fun binding => binding.name == name
  (naming.getLast?.bind Binding.value?).or (environment.lookup name)

variable {chars rest : List Char} {c : Char} {line : SettingsLine} {head : LineHead} {file : SettingsFile}
  {environment : Environment} {name : String}

theorem OneLine.append (first : OneLine chars) (second : OneLine rest) : OneLine (chars ++ rest) :=
  List.forall_mem_append.mpr ⟨first, second⟩

theorem OneLine.cons (first : c ≠ '\n' ∧ c ≠ '\r') (second : OneLine rest) : OneLine (c :: rest) :=
  List.forall_mem_cons.mpr ⟨first, second⟩

theorem oneLine_commentChars {comment? : Option (List Char)} (comments : ∀ comment ∈ comment?, OneLine comment) :
    OneLine (SettingsLine.commentChars comment?) := by
  cases comment? with
  | none => exact allBlank_nil.oneLine
  | some comment => exact .cons (by decide) (comments comment rfl)

theorem LineHead.Supported.oneLine (supported : head.Supported) : OneLine head.chars := by
  have named : OneLine head.name := by
    intro c member
    have visible := isSpace_of_isNameChar (supported.name c member).1
    constructor <;> rintro rfl <;> cases visible
  refine supported.indent.oneLine.append (.append ?_ (named.append supported.gap.oneLine))
  cases marked : head.marked? with
  | none => exact allBlank_nil.oneLine
  | some blanks =>
      have word : OneLine exportWord := by decide
      exact word.append (supported.marked blanks marked).2.oneLine

theorem SettingsLine.oneLine_chars (supported : line.Supported) : OneLine line.chars := by
  cases line with
  | blank blanks => exact AllBlank.oneLine supported
  | comment indent text => exact supported.1.oneLine.append (.cons (by decide) supported.2)
  | bare head comment? => exact supported.1.oneLine.append (oneLine_commentChars supported.2)
  | setting head lead value tail comment? =>
      obtain ⟨headed, leading, plain, trailing, commented⟩ := supported
      have comments := oneLine_commentChars fun comment given => (commented comment given).1
      exact headed.oneLine.append (.cons (by decide)
        (leading.oneLine.append (plain.oneLine.append (trailing.oneLine.append comments))))

namespace Binding

theorem lines_of_oneLine (oneLine : OneLine chars) : lines chars = [chars] := by
  induction chars with
  | nil => rfl
  | cons c more ih =>
      obtain ⟨here, later⟩ := List.forall_mem_cons.mp oneLine
      rw [lines, if_neg (not_or.mpr here), ih later]

theorem lines_append_break (oneLine : OneLine chars) (ends : c = '\n' ∨ c = '\r') :
    lines (chars ++ c :: rest) = chars :: lines rest := by
  induction chars with
  | nil => rw [List.nil_append, lines, if_pos ends]
  | cons d more ih =>
      obtain ⟨here, later⟩ := List.forall_mem_cons.mp oneLine
      rw [List.cons_append, lines, if_neg (not_or.mpr here), ih later]

/-- Between the two characters of a line break there is an empty line, which says nothing. -/
theorem filterMap_lines_append_break (oneLine : OneLine chars) (lineBreak : LineBreak) :
    (lines (chars ++ (lineBreak.chars ++ rest))).filterMap ofLine? =
      [chars].filterMap ofLine? ++ (lines rest).filterMap ofLine? := by
  cases lineBreak with
  | newline =>
      rw [LineBreak.chars, List.cons_append, lines_append_break oneLine (Or.inl rfl), ← List.filterMap_append]
      rfl
  | carriageReturn =>
      rw [LineBreak.chars, List.cons_append, lines_append_break oneLine (Or.inr rfl), ← List.filterMap_append]
      rfl

theorem ofText_text (supported : file.Supported) : ofText file.text = file.lines.filterMap SettingsLine.binding? := by
  obtain ⟨ended, last⟩ := file
  rw [ofText, SettingsFile.text, String.toList_ofList]
  have read : ∀ line ∈ SettingsFile.lines ⟨ended, last⟩,
      OneLine line.chars ∧ [line.chars].filterMap ofLine? = [line].filterMap SettingsLine.binding? := by
    intro line member
    refine ⟨SettingsLine.oneLine_chars (supported line member), ?_⟩
    simp only [List.filterMap_cons, List.filterMap_nil, ofLine?_chars (supported line member)]
  clear supported
  induction ended with
  | nil =>
      obtain ⟨oneLine, same⟩ := read last (by simp [SettingsFile.lines])
      rw [SettingsFile.chars, List.flatMap_nil, List.nil_append, lines_of_oneLine oneLine, same]
      rfl
  | cons first more ih =>
      obtain ⟨oneLine, same⟩ := read first.1 (by simp [SettingsFile.lines])
      have later := ih fun line member => read line (by
        simp only [SettingsFile.lines, List.map_cons, List.cons_append] at member ⊢
        exact List.mem_cons_of_mem _ member)
      simp only [SettingsFile.chars, SettingsFile.lines, List.flatMap_cons, List.append_assoc, List.map_cons] at later ⊢
      rw [filterMap_lines_append_break oneLine, same, later, ← List.filterMap_append]
      rfl

end Binding

namespace Connection

theorem value?_ofText (supported : file.Supported) :
    environment.value? (Binding.ofText file.text) name = file.value? environment name := by
  rw [Binding.ofText_text supported, Environment.value?, SettingsFile.value?, ← List.head?_reverse,
    ← List.filter_reverse, List.head?_filter]
  cases (List.find? (fun binding => binding.name == name)
    (file.lines.filterMap SettingsLine.binding?).reverse).bind Binding.value? <;> rfl

theorem read_text (supported : file.Supported) : read environment file.text = ofVariables (file.value? environment) :=
  congrArg ofVariables (funext fun _ => value?_ofText supported)

theorem nonempty?_of_nonempty {value? : Option String} {value : String} (set : value? = some value)
    (given : value ≠ "") : nonempty? value? = some value := by
  simp [nonempty?, set, given]

theorem nonempty?_of_empty {value? : Option String} (empty : value?.getD "" = "") : nonempty? value? = none := by
  cases value? with
  | none => rfl
  | some value => simp_all [nonempty?]

/-- A further line that sets a variable goes before all lines there were. -/
theorem value?_appended_line (supported : file.Supported) {name value : String} (named : name.toList ≠ [])
    (letters : ∀ c ∈ name.toList, Binding.isNameChar c = true ∧ c ∉ ['\'', '"']) (plain : PlainValue value.toList) :
    environment.value? (Binding.ofText (file.text ++ "\n" ++ name ++ "=" ++ value)) name = some value := by
  let head : LineHead := ⟨[], none, name.toList, []⟩
  have headed : head.Supported :=
    { indent := allBlank_nil
      marked := fun _ none => by cases none
      named := named
      name := letters
      gap := allBlank_nil
      unmarked := fun _ _ => rfl }
  let line : SettingsLine := .setting head [] value.toList [] none
  have added : line.Supported := ⟨headed, allBlank_nil, plain, allBlank_nil, fun _ none => by cases none⟩
  let extended : SettingsFile := ⟨file.ended ++ [(file.last, .newline)], line⟩
  have lines : extended.lines = file.lines ++ [line] := by
    simp [extended, SettingsFile.lines]
  have whole : extended.Supported := by
    intro other member
    rw [lines] at member
    rcases List.mem_append.mp member with old | new
    · exact supported other old
    · rw [List.mem_singleton.mp new]
      exact added
  have text : file.text ++ "\n" ++ name ++ "=" ++ value = extended.text := by
    apply String.toList_injective
    simp [SettingsFile.text, SettingsFile.chars, extended, line, head, SettingsLine.chars, LineHead.chars,
      SettingsLine.commentChars, LineBreak.chars]
  rw [text, value?_ofText whole, SettingsFile.value?, lines]
  simp [line, head, SettingsLine.binding?, List.filterMap_append]

/-- An address that is set and not empty is taken as it is, and otherwise put together from its parts; a
database that is not set or empty is the standard one.  What counts for a variable is the last line of the file
that names it, and the environment where that line sets nothing; the value is what was written. -/
theorem read_settings (environment : Environment) (supported : file.Supported) :
    let connection := read environment file.text
    let value? := file.value? environment
    let shown (name : String) : String := (value? name).getD "None"
    (∀ address, value? "MONGO_URI" = some address → address ≠ "" → connection.address = address) ∧
    ((value? "MONGO_URI").getD "" = "" → connection.address =
      "mongodb://" ++ shown "MONGO_USER" ++ ":" ++ shown "MONGO_PASSWORD" ++ "@" ++ shown "MONGO_HOST" ++ ":" ++
        shown "MONGO_PORT" ++ "/?authSource=" ++ shown "MONGO_AUTH_SOURCE" ++
        "&readPreference=primary&directConnection=true&ssl=false") ∧
    (∀ database, value? "MONGO_DATABASE" = some database → database ≠ "" → connection.database = database) ∧
    ((value? "MONGO_DATABASE").getD "" = "" → connection.database = "stratalog") ∧
    ∀ name value : String, name.toList ≠ [] →
      (∀ c ∈ name.toList, Binding.isNameChar c = true ∧ c ∉ ['\'', '"']) → PlainValue value.toList →
      environment.value? (Binding.ofText (file.text ++ "\n" ++ name ++ "=" ++ value)) name = some value := by
  intro connection value? shown
  have described : connection = ofVariables value? := read_text supported
  refine ⟨fun address set given => ?_, fun unset => ?_, fun database set given => ?_, fun unset => ?_,
    fun name value named letters plain => value?_appended_line supported named letters plain⟩
  · rw [described, ofVariables, nonempty?_of_nonempty set given, Option.getD_some]
  · rw [described, ofVariables, nonempty?_of_empty unset, Option.getD_none]
    rfl
  · rw [described, ofVariables, nonempty?_of_nonempty set given, Option.getD_some]
  · rw [described, ofVariables, nonempty?_of_empty unset, Option.getD_none]
    rfl

/-- Lines of every form: an address that is emptied, a variable that is given back to the environment after it
was set, and a value that looks like a comment. -/
def settingsSpecimen : SettingsFile where
  ended :=
    [(.setting ⟨[' '], some [' '], "MONGO_USER".toList, [' ']⟩ [' '] "ana maria".toList ['\t'] (some " admin".toList),
        .carriageReturn),
      (.comment [] "MONGO_HOST=x".toList, .newline), (.blank ['\t'], .newline),
      (.setting ⟨[], none, "MONGO_URI".toList, []⟩ [] [] [' '] none, .newline),
      (.setting ⟨[], none, "MONGO_PORT".toList, []⟩ [] ['1'] [] none, .carriageReturn),
      (.bare ⟨[], none, "MONGO_PORT".toList, [' ']⟩ (some []), .newline),
      (.setting ⟨[], none, "MONGO_HOST".toList, []⟩ [] "a#b".toList [] none, .newline)]
  last := .setting ⟨[], none, "MONGO_DATABASE".toList, []⟩ [' '] "# c".toList [] none

theorem read_settings_specimen :
    let environment : Environment := [("MONGO_URI", "mongodb://env"), ("MONGO_PORT", "27017"), ("MONGO_PASSWORD", "")]
    let text := " export MONGO_USER = ana maria\t# admin\r\n#MONGO_HOST=x\n\t\nMONGO_URI= \nMONGO_PORT=1\r\n" ++
      "MONGO_PORT #\nMONGO_HOST=a#b\nMONGO_DATABASE= # c"
    settingsSpecimen.Supported ∧ settingsSpecimen.text = text ∧
      (read environment text).address = "mongodb://ana maria:@a#b:27017/?authSource=None" ++
        "&readPreference=primary&directConnection=true&ssl=false" ∧
      (read environment text).database = "# c" ∧
      environment.value? (Binding.ofText (text ++ "\n" ++ "MONGO_URI" ++ "=" ++ "mongodb://h/#x y")) "MONGO_URI" =
        some "mongodb://h/#x y" := by
  intro environment text
  have supported : settingsSpecimen.Supported := by decide
  have written : settingsSpecimen.text = text := by decide +kernel
  obtain ⟨_, composed, named, _, passed⟩ := read_settings environment supported
  rw [written] at composed named passed
  have unset : (settingsSpecimen.value? environment "MONGO_URI").getD "" = "" := by decide +kernel
  exact ⟨supported, written, composed unset, named "# c" (by decide) (by decide),
    passed "MONGO_URI" "mongodb://h/#x y" (by decide) (by decide) (by decide)⟩

end Connection
end GameLogs
