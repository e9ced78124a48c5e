import GameLogs.Json.Reader
import Mathlib.Data.List.TakeWhile
import Mathlib.Tactic.SplitIfs
namespace GameLogs.Json

/-! JSON text is read as the value it was written for.

What is written for a value is read up to its last character, whatever follows, as long as what follows a number
does not go on with it.  A row of elements is read with the fuel that its values need, one call for each.
-/

variable {chars rest gap : List Char} {fuel level : Nat}

section Strings

theorem hexDigit?_digitChar : ∀ digit < 16, hexDigit? (Nat.digitChar digit) = some digit := by decide

theorem hexDigits_control : ∀ code < 0x20,
    Text.hexDigits 4 code = ['0', '0', Nat.digitChar (code / 16), Nat.digitChar (code % 16)] := by decide

theorem readUnit_hexDigits {code : Nat} (control : code < 0x20) :
    readUnit (Text.hexDigits 4 code ++ rest) = some (code, rest) := by
  have high : hexDigit? (Nat.digitChar (code / 16)) = some (code / 16) := hexDigit?_digitChar _ (by omega)
  have low : hexDigit? (Nat.digitChar (code % 16)) = some (code % 16) := hexDigit?_digitChar _ (by omega)
  have zero : hexDigit? '0' = some 0 := rfl
  have whole : ((0 * 16 + 0) * 16 + code / 16) * 16 + code % 16 = code := by omega
  rw [hexDigits_control code control]
  simp only [List.cons_append, List.nil_append, readUnit, zero, high, low, Option.bind_eq_bind, Option.bind_some, whole]
  rfl

theorem readCode_hexDigits {c : Char} (control : c.toNat < 0x20) :
    readCode (Text.hexDigits 4 c.toNat ++ rest) = some (c, rest) := by
  have direct : c.toNat < 0xd800 ∨ 0xe000 ≤ c.toNat := by omega
  rw [readCode, readUnit_hexDigits control, Option.bind_eq_bind, Option.bind_some]
  simp only [if_pos direct, Char.ofNat_toNat]
  rfl

theorem readString_escape {code : List Char} {c : Char} (escape : readEscape code = some (c, rest)) :
    readString (fuel + 1) ('\\' :: code) = (readString fuel rest).map fun read => (c :: read.1, read.2) := by
  rw [readString, if_neg (by decide), if_pos rfl, escape, Option.bind_eq_bind, Option.bind_some]
  dsimp only
  cases readString fuel rest <;> rfl

theorem readString_plain {c : Char} (unmarked : ¬(c = '"' ∨ c = '\\')) (printed : ¬c.toNat < 0x20) :
    readString (fuel + 1) (c :: rest) = (readString fuel rest).map fun read => (c :: read.1, read.2) := by
  rw [not_or] at unmarked
  rw [readString, if_neg unmarked.1, if_neg unmarked.2, if_neg printed]
  cases readString fuel rest <;> rfl

/-- What is written for a character is read as that character, in one step. -/
theorem readString_escapedChar {c : Char} :
    readString (fuel + 1) (escapedChar c ++ rest) = (readString fuel rest).map fun read => (c :: read.1, read.2) := by
  have coded {code : Nat} (same : c.toNat = code) : Char.ofNat code = c := by rw [← same, Char.ofNat_toNat]
  unfold escapedChar
  split_ifs with marked newline carriage tab backspace feed control
  · refine readString_escape ?_
    rcases marked with rfl | rfl <;> rfl
  · exact readString_escape (newline ▸ rfl)
  · exact readString_escape (carriage ▸ rfl)
  · exact readString_escape (tab ▸ rfl)
  · exact readString_escape (coded backspace ▸ rfl)
  · exact readString_escape (coded feed ▸ rfl)
  · exact readString_escape (readCode_hexDigits control)
  · exact readString_plain marked control

/-- A string is read up to its closing quote, with one step for each character. -/
theorem readString_flatMap {text : List Char} (enough : text.length < fuel) :
    readString fuel (text.flatMap escapedChar ++ '"' :: rest) = some (text, rest) := by
  induction text generalizing fuel with
  | nil =>
      obtain ⟨fuel, rfl⟩ := Nat.exists_eq_add_of_lt enough
      rfl
  | cons c text ih =>
      obtain ⟨fuel, rfl⟩ := Nat.exists_eq_succ_of_ne_zero (Nat.ne_zero_of_lt enough)
      rw [List.flatMap_cons, List.append_assoc, readString_escapedChar, ih (Nat.lt_of_succ_lt_succ enough)]
      rfl

theorem length_le_flatMap {text : List Char} : text.length ≤ (text.flatMap escapedChar).length := by
  induction text with
  | nil => rfl
  | cons c text ih =>
      have written : 0 < (escapedChar c).length := by
        unfold escapedChar
        split_ifs <;> exact Nat.succ_pos _
      rw [List.flatMap_cons, List.length_append, List.length_cons]
      omega

end Strings

section Numbers

/-- Nothing that would go on with a number. -/
def Stops (rest : List Char) : Prop := ∀ c ∈ rest.head?, c.isDigit = false ∧ c ≠ '.' ∧ c ≠ 'e' ∧ c ≠ 'E'

theorem stops_cons {c : Char} (stop : c.isDigit = false ∧ c ≠ '.' ∧ c ≠ 'e' ∧ c ≠ 'E') : Stops (c :: rest) := by
  intro other head
  obtain rfl := Option.some.inj head
  exact stop

theorem exists_digit {number : Nat} :
    ∃ first others, Nat.toDigits 10 number = first :: others ∧ first.isDigit = true := by
  obtain ⟨first, others, written⟩ := List.exists_cons_of_ne_nil (@Nat.toDigits_ne_nil number 10)
  have member : first ∈ Nat.toDigits 10 number := written ▸ List.mem_cons_self
  exact ⟨first, others, written, Nat.isDigit_of_mem_toDigits (by decide) (by decide) member⟩

theorem head?_toDigits {number : Nat} (positive : 0 < number) : (Nat.toDigits 10 number).head? ≠ some '0' := by
  induction number using Nat.strongRecOn with
  | _ number ih =>
      by_cases single : number < 10
      · rw [Nat.toDigits_of_lt_base single, List.head?_cons, Ne, Option.some.injEq, Nat.digitChar_eq_zero]
        omega
      · have shorter : 0 < number / 10 := by omega
        obtain ⟨first, others, written, _⟩ := @exists_digit (number / 10)
        have nonzero := ih (number / 10) (by omega) shorter
        rw [written] at nonzero
        rwa [Nat.toDigits_of_base_le (by decide) (by omega), written]

/-- A number is written without zeros in front. -/
theorem not_padded_toDigits {number : Nat} :
    ¬((Nat.toDigits 10 number).head? = some '0' ∧ 1 < (Nat.toDigits 10 number).length) := by
  rintro ⟨zero, long⟩
  by_cases positive : 0 < number
  · exact head?_toDigits positive zero
  · obtain rfl : number = 0 := by omega
    rw [Nat.toDigits_zero] at long
    exact absurd long (by decide)

theorem readDigits_toDigits {number : Nat} (stops : Stops rest) :
    readDigits (Nat.toDigits 10 number ++ rest) = some (Nat.toDigits 10 number, rest) := by
  have digits : ∀ c ∈ Nat.toDigits 10 number, c.isDigit = true :=
    fun c member => Nat.isDigit_of_mem_toDigits (by decide) (by decide) member
  have ended : rest.takeWhile Char.isDigit = [] ∧ rest.dropWhile Char.isDigit = rest := by
    cases rest with
    | nil => exact ⟨rfl, rfl⟩
    | cons c rest => simp [(stops c rfl).1]
  have nonempty : Nat.toDigits 10 number ≠ [] := Nat.toDigits_ne_nil
  rw [readDigits, List.takeWhile_append_of_pos digits, List.dropWhile_append_of_pos digits, ended.1, ended.2,
    List.append_nil, if_neg nonempty]

theorem readPlaces_of_stops (stops : Stops rest) : readPlaces rest = some ([], rest) := by
  unfold readPlaces
  split
  case h_1 => exact absurd rfl (stops _ rfl).2.1
  case h_2 => rfl

theorem readExponent_of_stops (stops : Stops rest) : readExponent rest = some ([], rest) := by
  cases rest with
  | nil => rfl
  | cons c rest =>
      obtain ⟨_, _, lower, upper⟩ := stops c rfl
      unfold readExponent
      exact if_neg (not_or.mpr ⟨lower, upper⟩)

theorem readUnsigned_toDigits {number : Nat} {negative : Bool} (stops : Stops rest) :
    readUnsigned negative (Nat.toDigits 10 number ++ rest) =
      some (.integer (if negative then -(number : Int) else number), rest) := by
  have value : Text.ofDigits ((Nat.toDigits 10 number).map fun c => c.toNat - '0'.toNat) = number := by
    rw [Text.ofDigits, List.foldl_map]
    exact Nat.ofDigitChars_toDigits (by decide) (by decide)
  simp only [readUnsigned, readDigits_toDigits stops, readPlaces_of_stops stops, readExponent_of_stops stops,
    Option.bind_eq_bind, Option.bind_some, if_neg not_padded_toDigits, value, and_self, if_true]
  rfl

theorem readNumber_integerChars {number : Int} (stops : Stops rest) :
    readNumber (integerChars number ++ rest) = some (.integer number, rest) := by
  unfold integerChars
  split
  case isTrue negative =>
    rw [List.cons_append, readNumber, readUnsigned_toDigits stops, if_pos rfl]
    have same : -(number.natAbs : Int) = number := by omega
    rw [same]
  case isFalse nonnegative =>
    have same : (number.natAbs : Int) = number := by omega
    obtain ⟨first, others, written, digit⟩ := @exists_digit number.natAbs
    have unsigned : readNumber (Nat.toDigits 10 number.natAbs ++ rest) =
        readUnsigned false (Nat.toDigits 10 number.natAbs ++ rest) := by
      rw [written, List.cons_append, readNumber]
      rintro _ ⟨rfl, _⟩
      exact absurd digit (by decide)
    rw [unsigned, readUnsigned_toDigits stops, if_neg (by decide), same]

end Numbers

section Gaps

theorem skipGaps_append (gaps : ∀ c ∈ gap, isGap c = true) : skipGaps (gap ++ chars) = skipGaps chars :=
  List.dropWhile_append_of_pos gaps

theorem skipGaps_cons {c : Char} (solid : isGap c = false) : skipGaps (c :: rest) = c :: rest := by
  rw [skipGaps, List.dropWhile_cons_of_neg (by rw [solid]; decide)]

theorem isGap_of_mem_lineBreak : ∀ c ∈ lineBreak level, isGap c = true := by
  intro c member
  rcases List.mem_cons.mp member with rfl | blank
  · rfl
  · rw [List.eq_of_mem_replicate blank]
    rfl

theorem skipGaps_lineBreak_cons {c : Char} (solid : isGap c = false) :
    skipGaps (lineBreak level ++ c :: rest) = c :: rest := by
  rw [skipGaps_append isGap_of_mem_lineBreak, skipGaps_cons solid]

theorem readValue_gaps (gaps : ∀ c ∈ gap, isGap c = true) : readValue fuel (gap ++ chars) = readValue fuel chars := by
  cases fuel with
  | zero => rfl
  | succ fuel => rw [readValue, readValue, skipGaps_append gaps]

theorem readValue_blank : readValue fuel (' ' :: chars) = readValue fuel chars := by
  refine @readValue_gaps chars [' '] fuel fun c member => ?_
  rw [List.mem_singleton.mp member]
  rfl

theorem readElements_lineBreak : readElements fuel (lineBreak level ++ chars) = readElements fuel chars := by
  cases fuel with
  | zero => rfl
  | succ fuel => rw [readElements, readElements, readValue_gaps isGap_of_mem_lineBreak]

theorem readMembers_lineBreak : readMembers fuel (lineBreak level ++ chars) = readMembers fuel chars := by
  cases fuel with
  | zero => rfl
  | succ fuel => rw [readMembers, readMembers, skipGaps_append isGap_of_mem_lineBreak]

theorem stops_lineBreak : Stops (lineBreak level ++ chars) := stops_cons (by decide)

end Gaps

theorem exists_numeric {number : Int} :
    ∃ first others, integerChars number = first :: others ∧ (first.isDigit = true ∨ first = '-') := by
  unfold integerChars
  split
  case isTrue => exact ⟨_, _, rfl, .inr rfl⟩
  case isFalse =>
    obtain ⟨first, others, written, digit⟩ := @exists_digit number.natAbs
    exact ⟨first, others, written, .inl digit⟩

theorem isGap_of_numeric {c : Char} (numeric : c.isDigit = true ∨ c = '-') : isGap c = false := by
  rw [Bool.eq_false_iff]
  intro blank
  simp only [isGap, Bool.or_eq_true, beq_iff_eq] at blank
  rcases blank with ((rfl | rfl) | rfl) | rfl <;> exact absurd numeric (by decide)

theorem readValue_integerChars {number : Int} (stops : Stops rest) :
    readValue (fuel + 1) (integerChars number ++ rest) = some (.integer number, rest) := by
  rw [← readNumber_integerChars stops]
  obtain ⟨first, others, written, numeric⟩ := @exists_numeric number
  rw [written, List.cons_append, readValue, skipGaps_cons (isGap_of_numeric numeric)]
  -- no other value begins like a number
  split
  case h_7 => rfl
  all_goals
    rename_i same
    obtain ⟨rfl, _⟩ := List.cons.inj same
    exact absurd numeric (by decide)

/-! Each way of reading a part of a value, from what is read before and after it. -/

variable {json : Json} {elements : List Json} {members : List (String × Json)} {text name : String}
  {after : List Char} {c : Char}

theorem stringChars_append : stringChars text ++ chars = '"' :: (text.toList.flatMap escapedChar ++ '"' :: chars) := by
  simp [stringChars]

theorem readValue_stringChars (enough : text.toList.length < fuel) :
    readValue (fuel + 1) (stringChars text ++ rest) = some (.string text, rest) := by
  simp (disch := decide) only [stringChars_append, readValue, skipGaps_cons, readString_flatMap enough,
    Option.bind_eq_bind, Option.bind_some, String.ofList_toList]
  rfl

theorem readValue_array (solid : isGap c = false) (unclosed : c ≠ ']')
    (inner : readElements fuel (c :: chars) = some (elements, rest)) :
    readValue (fuel + 1) ('[' :: (lineBreak level ++ c :: chars)) = some (.array elements, rest) := by
  simp (disch := decide) only [readValue, skipGaps_cons, skipGaps_lineBreak_cons solid]
  split
  case h_1 same => exact absurd (List.cons.inj same).1 unclosed
  case h_2 => rw [inner]; rfl

theorem readElements_last (first : readValue fuel chars = some (json, lineBreak level ++ ']' :: rest)) :
    readElements (fuel + 1) chars = some ([json], rest) := by
  simp (disch := decide) only [readElements, first, Option.bind_eq_bind, Option.bind_some, skipGaps_lineBreak_cons]
  rfl

theorem readElements_more (first : readValue fuel chars = some (json, ',' :: (lineBreak level ++ after)))
    (others : readElements fuel after = some (elements, rest)) :
    readElements (fuel + 1) chars = some (json :: elements, rest) := by
  simp (disch := decide) only [readElements, first, Option.bind_eq_bind, Option.bind_some, skipGaps_cons,
    readElements_lineBreak, others]
  rfl

theorem readValue_object (inner : readMembers fuel (stringChars name ++ chars) = some (members, rest)) :
    readValue (fuel + 1) ('{' :: (lineBreak level ++ (stringChars name ++ chars))) = some (.object members, rest) := by
  rw [stringChars_append] at inner ⊢
  simp (disch := decide) only [readValue, skipGaps_cons, skipGaps_lineBreak_cons]
  split
  case h_1 same => exact absurd (List.cons.inj same).1 (by decide)
  case h_2 => rw [inner]; rfl

theorem readMembers_last (enough : name.toList.length < fuel)
    (value : readValue fuel chars = some (json, lineBreak level ++ '}' :: rest)) :
    readMembers (fuel + 1) (stringChars name ++ ':' :: ' ' :: chars) = some ([(name, json)], rest) := by
  simp (disch := decide) only [stringChars_append, readMembers, skipGaps_cons, readString_flatMap enough,
    Option.bind_eq_bind, Option.bind_some, readValue_blank, value, skipGaps_lineBreak_cons, String.ofList_toList]
  rfl

theorem readMembers_more (enough : name.toList.length < fuel)
    (value : readValue fuel chars = some (json, ',' :: (lineBreak level ++ after)))
    (others : readMembers fuel after = some (members, rest)) :
    readMembers (fuel + 1) (stringChars name ++ ':' :: ' ' :: chars) = some ((name, json) :: members, rest) := by
  simp (disch := decide) only [stringChars_append, readMembers, skipGaps_cons, readString_flatMap enough,
    Option.bind_eq_bind, Option.bind_some, readValue_blank, value, readMembers_lineBreak, others,
    String.ofList_toList]
  rfl

mutual

/-- Whether a value holds whole numbers only. -/
def isWhole : Json → Bool
  | .real _ => false
  | .array elements => elementsWhole elements
  | .object members => membersWhole members
  | _ => true

def elementsWhole : List Json → Bool
  | [] => true
  | element :: rest => isWhole element && elementsWhole rest

def membersWhole : List (String × Json) → Bool
  | [] => true
  | (_, value) :: rest => isWhole value && membersWhole rest

end

/-- Every value begins with a character that neither separates nor closes. -/
theorem exists_head {json : Json} (whole : json.isWhole = true) : ∃ first others,
    json.chars level = first :: others ∧ isGap first = false ∧ first ≠ ']' := by
  cases json with
  | null => exact ⟨_, _, rfl, rfl, by decide⟩
  | bool value => cases value <;> exact ⟨_, _, rfl, rfl, by decide⟩
  | integer number =>
      obtain ⟨first, others, written, numeric⟩ := @exists_numeric number
      refine ⟨first, others, written, isGap_of_numeric numeric, ?_⟩
      rintro rfl
      exact absurd numeric (by decide)
  | real => cases whole
  | string text => exact ⟨_, _, rfl, rfl, by decide⟩
  | array elements => cases elements <;> exact ⟨_, _, rfl, rfl, by decide⟩
  | object members => rcases members with _ | ⟨⟨name, first⟩, rest⟩ <;> exact ⟨_, _, rfl, rfl, by decide⟩

theorem length_stringChars : text.toList.length + 2 ≤ (stringChars text).length := by
  have escaped := @length_le_flatMap text.toList
  simp only [stringChars, List.cons_append, List.length_cons, List.length_append, List.length_nil]
  omega

theorem stops_restElements {outer : Nat} :
    Stops (restElements level elements ++ (lineBreak outer ++ chars)) := by
  cases elements with
  | nil => exact stops_lineBreak
  | cons => exact stops_cons (by decide)

theorem stops_restMembers {outer : Nat} : Stops (restMembers level members ++ (lineBreak outer ++ chars)) := by
  rcases members with _ | ⟨⟨name, value⟩, others⟩
  · exact stops_lineBreak
  · exact stops_cons (by decide)

mutual

/-- What is written for a value is read as that value and no further.  Every call on the way to a part reads a
character or leaves the next call one that does, which twice the length of the text pays for. -/
theorem readValue_chars : (json : Json) → json.isWhole = true → ∀ {fuel level : Nat} {rest : List Char},
    2 * (json.chars level).length ≤ fuel → Stops rest →
      readValue fuel (json.chars level ++ rest) = some (json, rest)
  | .null, _, fuel + 1, _, _, _, _ => rfl
  | .bool true, _, fuel + 1, _, _, _, _ => rfl
  | .bool false, _, fuel + 1, _, _, _, _ => rfl
  | .integer number, _, fuel + 1, _, _, _, stops => readValue_integerChars stops
  | .string text, _, fuel + 1, _, rest, enough, _ => by
      have escaped := @length_stringChars text
      rw [chars] at enough ⊢
      exact readValue_stringChars (by omega)
  | .array [], _, fuel + 1, _, _, _, _ => rfl
  | .array (first :: others), whole, fuel + 1, level, rest, enough, _ => by
      have inner : 2 * (first.chars (level + 1)).length + 2 * (restElements (level + 1) others).length < fuel := by
        simp only [chars, List.length_cons, List.length_append, lineBreak] at enough
        omega
      have wholes : elementsWhole (first :: others) = true := by rwa [isWhole] at whole
      have read := @readElements_chars (first :: others) wholes first others rfl fuel (level + 1) level rest inner
      rw [elementsWhole, Bool.and_eq_true] at wholes
      obtain ⟨head, tail, written, solid, unclosed⟩ := @exists_head (level + 1) first wholes.1
      rw [written, List.cons_append] at read
      simp only [chars, written, List.cons_append, List.append_assoc, List.nil_append]
      exact readValue_array solid unclosed read
  | .object [], _, fuel + 1, _, _, _, _ => rfl
  | .object ((name, first) :: others), whole, fuel + 1, level, rest, enough, _ => by
      have inner : 2 * (stringChars name).length + 2 * (first.chars (level + 1)).length +
          2 * (restMembers (level + 1) others).length < fuel := by
        simp only [chars, List.length_cons, List.length_append, lineBreak] at enough
        omega
      have wholes : membersWhole ((name, first) :: others) = true := by rwa [isWhole] at whole
      have read := @readMembers_chars ((name, first) :: others) wholes name first others rfl fuel (level + 1) level
        rest inner
      simp only [chars, List.cons_append, List.append_assoc, List.nil_append]
      exact readValue_object read
  | json, whole, 0, level, rest, enough, _ => by
      obtain ⟨head, tail, written, _⟩ := @exists_head level json whole
      rw [written, List.length_cons] at enough
      omega

theorem readElements_chars : (elements : List Json) → elementsWhole elements = true →
    ∀ {first : Json} {others : List Json}, elements = first :: others →
    ∀ {fuel level outer : Nat} {rest : List Char},
      2 * (first.chars level).length + 2 * (restElements level others).length < fuel →
        readElements fuel (first.chars level ++ (restElements level others ++ (lineBreak outer ++ ']' :: rest))) =
          some (elements, rest)
  | first :: others, whole, _, _, rfl, fuel + 1, level, outer, rest, enough => by
      rw [elementsWhole, Bool.and_eq_true] at whole
      have stops : Stops (restElements level others ++ (lineBreak outer ++ ']' :: rest)) := stops_restElements
      have read := @readValue_chars first whole.1 fuel level _ (by omega) stops
      cases others with
      | nil => exact readElements_last read
      | cons second others =>
          simp only [restElements, List.length_cons, List.length_append] at enough
          simp only [restElements, List.cons_append, List.append_assoc] at read ⊢
          exact readElements_more read (readElements_chars (second :: others) whole.2 rfl (by omega))

theorem readMembers_chars : (members : List (String × Json)) → membersWhole members = true →
    ∀ {name : String} {first : Json} {others : List (String × Json)}, members = (name, first) :: others →
    ∀ {fuel level outer : Nat} {rest : List Char},
      2 * (stringChars name).length + 2 * (first.chars level).length + 2 * (restMembers level others).length < fuel →
        readMembers fuel (stringChars name ++ (':' :: ' ' :: (first.chars level ++
          (restMembers level others ++ (lineBreak outer ++ '}' :: rest))))) = some (members, rest)
  | (name, first) :: others, whole, _, _, _, rfl, fuel + 1, level, outer, rest, enough => by
      rw [membersWhole, Bool.and_eq_true] at whole
      have stops : Stops (restMembers level others ++ (lineBreak outer ++ '}' :: rest)) := stops_restMembers
      have read := @readValue_chars first whole.1 fuel level _ (by omega) stops
      have named := @length_stringChars name
      cases others with
      | nil => exact readMembers_last (by omega) read
      | cons second others =>
          obtain ⟨other, second⟩ := second
          simp only [restMembers, List.length_cons, List.length_append] at enough
          simp only [restMembers, List.cons_append, List.append_assoc] at read ⊢
          exact readMembers_more (by omega) read
            (readMembers_chars ((other, second) :: others) whole.2 rfl (by omega))

end

/-- What is written for a value of whole numbers is read as that value. -/
theorem read?_render (whole : json.isWhole = true) : read? json.render = some json := by
  have read : readValue (2 * (json.chars 0).length + 2) (json.chars 0) = some (json, []) := by
    simpa using readValue_chars json whole (Nat.le_add_right _ 2) (nofun : Stops [])
  have ended : skipGaps [] = [] := rfl
  simp only [read?, render, String.toList_ofList, read, if_pos ended]

end GameLogs.Json
