import GameLogs.Environment
import Mathlib.Data.List.Chain
import Mathlib.Data.List.TakeWhile
namespace GameLogs

/-! Settings files by their lines.

A line is written from its parts, and reading it finds the variable that it names and the value that it sets.
Quotes and `$` have a meaning of their own in such files and are left out.
-/

/-- What a line begins with that names a variable. -/
structure LineHead where
  indent : List Char
  /-- The blanks behind the word that marks a line for other programs, if the line has it. -/
  marked? : Option (List Char)
  name : List Char
  /-- The blanks behind the name. -/
  gap : List Char

inductive SettingsLine where
  | blank (blanks : List Char)
  | comment (indent text : List Char)
  | bare (head : LineHead) (comment? : Option (List Char))
  /-- The blanks in front of the value belong to the `=`, so that no comment can follow them. -/
  | setting (head : LineHead) (lead value tail : List Char) (comment? : Option (List Char))

def exportWord : List Char := ['e', 'x', 'p', 'o', 'r', 't']

section Decidability

variable {property : Char → Prop} [DecidablePred property]

/-- A property of characters is decided for those of a row, and not for all there are. -/
instance decidableForallChar {chars : List Char} : Decidable (∀ c ∈ chars, property c) := List.decidableBAll _ chars

instance decidableForallChar? {c? : Option Char} : Decidable (∀ c ∈ c?, property c) := Option.decidableForallMem c?

end Decidability

def AllBlank (chars : List Char) : Prop := ∀ c ∈ chars, Text.isInlineSpace c = true

def OneLine (chars : List Char) : Prop := ∀ c ∈ chars, c ≠ '\n' ∧ c ≠ '\r'

instance {chars : List Char} : Decidable (AllBlank chars) := inferInstanceAs (Decidable (∀ c ∈ chars, _))

instance {chars : List Char} : Decidable (OneLine chars) := inferInstanceAs (Decidable (∀ c ∈ chars, _))

namespace LineHead

def chars (head : LineHead) : List Char :=
  head.indent ++ (head.marked?.elim [] (exportWord ++ ·) ++ (head.name ++ head.gap))

structure Supported (head : LineHead) : Prop where
  indent : AllBlank head.indent
  marked : ∀ blanks ∈ head.marked?, blanks ≠ [] ∧ AllBlank blanks
  named : head.name ≠ []
  name : ∀ c ∈ head.name, Binding.isNameChar c = true ∧ c ∉ ['\'', '"']
  gap : AllBlank head.gap
  /-- With a blank behind it the word is the mark, and not a name. -/
  unmarked : head.marked? = none → head.name = exportWord → head.gap = []

instance {head : LineHead} : Decidable head.Supported :=
  decidable_of_iff (AllBlank head.indent ∧ (∀ blanks ∈ head.marked?, blanks ≠ [] ∧ AllBlank blanks) ∧ head.name ≠ [] ∧
      (∀ c ∈ head.name, Binding.isNameChar c = true ∧ c ∉ ['\'', '"']) ∧ AllBlank head.gap ∧
      (head.marked? = none → head.name = exportWord → head.gap = []))
    ⟨fun ⟨indent, marked, named, name, gap, unmarked⟩ => ⟨indent, marked, named, name, gap, unmarked⟩,
      fun ⟨indent, marked, named, name, gap, unmarked⟩ => ⟨indent, marked, named, name, gap, unmarked⟩⟩

end LineHead

/-- A value that is written as it is. -/
structure PlainValue (value : List Char) : Prop where
  oneLine : OneLine value
  plain : ∀ c ∈ value, c ∉ ['\'', '"', '$']
  first : ∀ c ∈ value.head?, Text.isSpace c = false
  last : ∀ c ∈ value.getLast?, Text.isSpace c = false
  /-- No blank stands directly in front of a `#`. -/
  uncommented : value.IsChain fun first second => second = '#' → Text.isSpace first = false

instance {value : List Char} : Decidable (PlainValue value) :=
  decidable_of_iff (OneLine value ∧ (∀ c ∈ value, c ∉ ['\'', '"', '$']) ∧
      (∀ c ∈ value.head?, Text.isSpace c = false) ∧ (∀ c ∈ value.getLast?, Text.isSpace c = false) ∧
      value.IsChain fun first second => second = '#' → Text.isSpace first = false)
    ⟨fun ⟨oneLine, plain, first, last, uncommented⟩ => ⟨oneLine, plain, first, last, uncommented⟩,
      fun ⟨oneLine, plain, first, last, uncommented⟩ => ⟨oneLine, plain, first, last, uncommented⟩⟩

namespace SettingsLine

def commentChars (comment? : Option (List Char)) : List Char := comment?.elim [] ('#' :: ·)

def chars : SettingsLine → List Char
  | .blank blanks => blanks
  | .comment indent text => indent ++ '#' :: text
  | .bare head comment? => head.chars ++ commentChars comment?
  | .setting head lead value tail comment? =>
      head.chars ++ '=' :: (lead ++ (value ++ (tail ++ commentChars comment?)))

def Supported : SettingsLine → Prop
  | .blank blanks => AllBlank blanks
  | .comment indent text => AllBlank indent ∧ OneLine text
  | .bare head comment? => head.Supported ∧ ∀ comment ∈ comment?, OneLine comment
  | .setting head lead value tail comment? =>
      head.Supported ∧ AllBlank lead ∧ PlainValue value ∧ AllBlank tail ∧
        ∀ comment ∈ comment?, OneLine comment ∧ value ≠ [] ∧ tail ≠ []

instance : (line : SettingsLine) → Decidable line.Supported
  | .blank blanks => inferInstanceAs (Decidable (AllBlank blanks))
  | .comment indent text => inferInstanceAs (Decidable (AllBlank indent ∧ OneLine text))
  | .bare head comment? => inferInstanceAs (Decidable (head.Supported ∧ ∀ comment ∈ comment?, OneLine comment))
  | .setting head lead value tail comment? =>
      inferInstanceAs (Decidable (head.Supported ∧ AllBlank lead ∧ PlainValue value ∧ AllBlank tail ∧
        ∀ comment ∈ comment?, OneLine comment ∧ value ≠ [] ∧ tail ≠ []))

/-- The variable that a line names, and what the line sets it to. -/
def binding? : SettingsLine → Option Binding
  | .blank _ | .comment _ _ => none
  | .bare head _ => some ⟨String.ofList head.name, none⟩
  | .setting head _ value _ _ => some ⟨String.ofList head.name, some (String.ofList value)⟩

end SettingsLine

variable {chars rest blanks value : List Char} {c : Char} {line : SettingsLine} {head : LineHead}

theorem isSpace_of_isInlineSpace (inline : Text.isInlineSpace c = true) : Text.isSpace c = true := by
  simp only [Text.isInlineSpace, Bool.and_eq_true] at inline
  exact inline.1.1

theorem isSpace_of_isNameChar (named : Binding.isNameChar c = true) : Text.isSpace c = false := by
  simp only [Binding.isNameChar, Bool.and_eq_true, Bool.not_eq_true'] at named
  exact named.1.1

theorem AllBlank.oneLine (blank : AllBlank chars) : OneLine chars := by
  intro c member
  have inline := blank c member
  simp only [Text.isInlineSpace, Bool.and_eq_true, bne_iff_ne] at inline
  exact ⟨inline.1.2, inline.2⟩

theorem allBlank_nil : AllBlank [] := fun _ none => absurd none List.not_mem_nil

theorem AllBlank.isSpace (blank : AllBlank chars) (member : c ∈ chars) : Text.isSpace c = true :=
  isSpace_of_isInlineSpace (blank c member)

theorem dropWhile_of_head {test : Char → Bool} (stops : ∀ c ∈ chars.head?, test c = false) :
    chars.dropWhile test = chars := by
  cases chars with
  | nil => rfl
  | cons c rest => rw [List.dropWhile_cons, stops c rfl, if_neg Bool.false_ne_true]

theorem takeWhile_of_head {test : Char → Bool} (stops : ∀ c ∈ chars.head?, test c = false) :
    chars.takeWhile test = [] := by
  cases chars with
  | nil => rfl
  | cons c rest => rw [List.takeWhile_cons, stops c rfl, if_neg Bool.false_ne_true]

namespace Binding

/-- A word that is no blank and is not followed by one is not taken for the mark. -/
theorem withoutExport_of_unmarked (named : ∀ c ∈ chars, isNameChar c = true)
    (stops : ∀ c ∈ rest.head?, isNameChar c = false)
    (free : chars = exportWord → ∀ c ∈ rest.head?, Text.isInlineSpace c = false) :
    withoutExport (chars ++ rest) = chars ++ rest := by
  unfold withoutExport
  split
  case h_2 => rfl
  case h_1 c after same =>
    split
    case isFalse => rfl
    case isTrue inline =>
      have blank : isNameChar c = false := by
        simp [isNameChar, isSpace_of_isInlineSpace inline]
      have word : chars = exportWord := by
        have taken := congrArg (List.takeWhile isNameChar) same
        rw [List.takeWhile_append_of_pos named, takeWhile_of_head stops, List.append_nil] at taken
        rw [taken]
        have letters : ∀ c ∈ exportWord, isNameChar c = true := by decide
        change (exportWord ++ c :: after).takeWhile isNameChar = exportWord
        rw [List.takeWhile_append_of_pos letters, takeWhile_of_head fun other first => ?_, List.append_nil]
        obtain rfl := Option.some.inj first
        exact blank
      rw [word] at same
      have behind : rest = c :: after := List.append_cancel_left (same : exportWord ++ rest = exportWord ++ c :: after)
      have refused := free word c (by rw [behind]; rfl)
      rw [refused] at inline
      cases inline

/-- What follows the name and the blanks behind it: the `=`, a comment, or nothing. -/
def FollowsName (rest : List Char) : Prop := ∀ c ∈ rest.head?, c = '=' ∨ c = '#'

theorem FollowsName.stops (follows : FollowsName rest) :
    ∀ c ∈ rest.head?, isNameChar c = false ∧ Text.isInlineSpace c = false := by
  intro c first
  rcases follows c first with rfl | rfl <;> decide

theorem head_gap (blank : AllBlank blanks) (follows : FollowsName rest) :
    ∀ c ∈ (blanks ++ rest).head?, isNameChar c = false := by
  intro c first
  cases blanks with
  | nil => exact (follows.stops c first).1
  | cons blank more =>
      obtain rfl := Option.some.inj first
      simp [isNameChar, blank.isSpace List.mem_cons_self]

theorem withoutExport_head (supported : head.Supported) (follows : FollowsName rest) :
    withoutExport ((head.chars ++ rest).dropWhile Text.isSpace) = head.name ++ (head.gap ++ rest) := by
  obtain ⟨letter, letters, spelled⟩ := List.exists_cons_of_ne_nil supported.named
  have visible : Text.isSpace letter = false :=
    isSpace_of_isNameChar (supported.name letter (spelled ▸ List.mem_cons_self)).1
  rw [LineHead.chars, List.append_assoc, List.dropWhile_append_of_pos fun c member => supported.indent.isSpace member]
  cases marked : head.marked? with
  | none =>
      have first : ∀ c ∈ (head.name ++ (head.gap ++ rest)).head?, Text.isSpace c = false := by
        rw [spelled]
        rintro c ⟨⟩
        exact visible
      rw [Option.elim_none, List.nil_append, List.append_assoc, dropWhile_of_head first]
      refine withoutExport_of_unmarked (fun c member => (supported.name c member).1)
        (head_gap supported.gap follows) fun word c next => ?_
      rw [supported.unmarked marked word] at next
      exact (follows.stops c next).2
  | some blanks =>
      obtain ⟨present, blank⟩ := supported.marked blanks marked
      obtain ⟨first, more, rfl⟩ := List.exists_cons_of_ne_nil present
      have next : ∀ c ∈ (head.name ++ (head.gap ++ rest)).head?, Text.isInlineSpace c = false := by
        rw [spelled]
        rintro c ⟨⟩
        simp [Text.isInlineSpace, visible]
      have letter : Text.isSpace 'e' = false := by decide
      rw [Option.elim_some, List.append_assoc, List.append_assoc, exportWord, List.cons_append, List.dropWhile_cons,
        letter, if_neg Bool.false_ne_true]
      simp only [List.cons_append, List.nil_append, withoutExport, blank first List.mem_cons_self, if_true]
      rw [List.dropWhile_append_of_pos fun c member => blank c (List.mem_cons_of_mem first member), List.append_assoc,
        dropWhile_of_head next]

/-- What a line sets that goes on so behind its name. -/
def ofRest? (name : String) : List Char → Option Binding
  | [] | '#' :: _ => some ⟨name, none⟩
  | '=' :: value => some ⟨name, some (valueText value)⟩
  | _ => none

theorem ofLine?_head (supported : head.Supported) (follows : FollowsName rest) :
    ofLine? (head.chars ++ rest) = ofRest? (String.ofList head.name) rest := by
  have named : ∀ c ∈ head.name, isNameChar c = true := fun c member => (supported.name c member).1
  have stops := head_gap supported.gap follows
  have gapless : ∀ c ∈ rest.head?, Text.isInlineSpace c = false := fun c first => (follows.stops c first).2
  rw [ofLine?, withoutExport_head supported follows, List.takeWhile_append_of_pos named, takeWhile_of_head stops,
    List.append_nil, if_neg supported.named, List.dropWhile_append_of_pos named, dropWhile_of_head stops,
    List.dropWhile_append_of_pos supported.gap, dropWhile_of_head gapless]
  rfl

/-- The blanks behind a blank of a value lead to a character of the value that begins no comment. -/
theorem head_dropWhile_of_uncommented (blank : Text.isSpace c = true)
    (last : ∀ final ∈ (c :: value).getLast?, Text.isSpace final = false)
    (uncommented : (c :: value).IsChain fun first second => second = '#' → Text.isSpace first = false) :
    ((value ++ rest).dropWhile Text.isSpace).head? ≠ some '#' := by
  induction value generalizing c with
  | nil =>
      rw [last c rfl] at blank
      cases blank
  | cons next more ih =>
      obtain ⟨ahead, behind⟩ := List.isChain_cons_cons.mp uncommented
      rw [List.cons_append, List.dropWhile_cons]
      split
      case isTrue alsoBlank => exact ih alsoBlank (by simpa using last) behind
      case isFalse visible =>
        intro begins
        rw [ahead (Option.some.inj begins)] at blank
        cases blank

theorem beforeComment_append (last : ∀ final ∈ value.getLast?, Text.isSpace final = false)
    (uncommented : value.IsChain fun first second => second = '#' → Text.isSpace first = false) :
    beforeComment (value ++ rest) = value ++ beforeComment rest := by
  induction value with
  | nil => rfl
  | cons c more ih =>
      have inner : beforeComment (more ++ rest) = more ++ beforeComment rest := by
        refine ih (fun final member => last final ?_) uncommented.tail
        cases more with
        | nil => cases member
        | cons next others => simpa using member
      have kept : ¬ (Text.isSpace c && ((more ++ rest).dropWhile Text.isSpace).head? == some '#') = true := by
        simp only [Bool.and_eq_true, beq_iff_eq, not_and]
        exact fun blank => head_dropWhile_of_uncommented blank last uncommented
      rw [List.cons_append, beforeComment, if_neg kept, inner, List.cons_append]

theorem beforeComment_blank (blank : AllBlank blanks) : beforeComment blanks = blanks := by
  induction blanks with
  | nil => rfl
  | cons c more ih =>
      have later : AllBlank more := fun other member => blank other (List.mem_cons_of_mem c member)
      have nothing : more.dropWhile Text.isSpace = [] :=
        List.dropWhile_eq_nil_iff.mpr fun other member => later.isSpace member
      rw [beforeComment, nothing, ih later]
      simp

theorem beforeComment_comment (blank : AllBlank blanks) (present : blanks ≠ []) :
    beforeComment (blanks ++ '#' :: rest) = [] := by
  obtain ⟨c, more, rfl⟩ := List.exists_cons_of_ne_nil present
  have found : (more ++ '#' :: rest).dropWhile Text.isSpace = '#' :: rest := by
    rw [List.dropWhile_append_of_pos fun other member => blank.isSpace (List.mem_cons_of_mem c member)]
    rfl
  rw [List.cons_append, beforeComment, found, blank.isSpace List.mem_cons_self]
  rfl

theorem trimRight_append (last : ∀ final ∈ value.getLast?, Text.isSpace final = false) (blank : AllBlank blanks) :
    Text.trimRight (value ++ blanks) = value := by
  have stops : ∀ c ∈ value.reverse.head?, Text.isSpace c = false := by
    rw [List.head?_reverse]
    exact last
  rw [Text.trimRight, List.reverse_append,
    List.dropWhile_append_of_pos fun c member => blank.isSpace (List.mem_reverse.mp member), dropWhile_of_head stops,
    List.reverse_reverse]

/-- The blanks in front of a value, those behind it and a comment are taken away, and nothing else. -/
theorem valueText_eq {lead tail : List Char} {comment? : Option (List Char)} (leading : AllBlank lead)
    (plain : PlainValue value) (trailing : AllBlank tail)
    (apart : ∀ comment ∈ comment?, value ≠ [] ∧ tail ≠ []) :
    valueText (lead ++ (value ++ (tail ++ SettingsLine.commentChars comment?))) = String.ofList value := by
  rw [valueText, List.dropWhile_append_of_pos leading]
  cases value with
  | nil =>
      cases comment? with
      | some comment => exact absurd rfl (apart comment rfl).1
      | none =>
          have nothing : tail.dropWhile Text.isInlineSpace = [] := List.dropWhile_eq_nil_iff.mpr trailing
          rw [SettingsLine.commentChars, Option.elim_none, List.append_nil, List.nil_append, nothing]
          rfl
  | cons first more =>
      have visible : ∀ c ∈ ((first :: more) ++ (tail ++ SettingsLine.commentChars comment?)).head?,
          Text.isInlineSpace c = false := by
        rintro c ⟨⟩
        simp [Text.isInlineSpace, plain.first first rfl]
      rw [dropWhile_of_head visible, beforeComment_append plain.last plain.uncommented]
      cases comment? with
      | none =>
          rw [SettingsLine.commentChars, Option.elim_none, List.append_nil, beforeComment_blank trailing,
            trimRight_append plain.last trailing]
      | some comment =>
          rw [SettingsLine.commentChars, Option.elim_some, beforeComment_comment trailing (apart comment rfl).2,
            trimRight_append plain.last allBlank_nil]

/-- Reading a line finds the variable that it names and what it sets. -/
theorem ofLine?_chars (supported : line.Supported) : ofLine? line.chars = line.binding? := by
  have commentFollows : ∀ comment?, FollowsName (SettingsLine.commentChars comment?) := by
    intro comment? c first
    cases comment? with
    | none => cases first
    | some comment => exact Or.inr (Option.some.inj first).symm
  cases line with
  | blank blanks =>
      have nothing : blanks.dropWhile Text.isSpace = [] :=
        List.dropWhile_eq_nil_iff.mpr fun c member => AllBlank.isSpace supported member
      rw [SettingsLine.chars, ofLine?, nothing]
      rfl
  | comment indent text =>
      have begins : (indent ++ '#' :: text).dropWhile Text.isSpace = '#' :: text := by
        rw [List.dropWhile_append_of_pos fun c member => supported.1.isSpace member]
        rfl
      rw [SettingsLine.chars, ofLine?, begins]
      rfl
  | bare head comment? =>
      rw [SettingsLine.chars, ofLine?_head supported.1 (commentFollows comment?)]
      cases comment? <;> rfl
  | setting head lead value tail comment? =>
      obtain ⟨headed, leading, plain, trailing, commented⟩ := supported
      have follows : FollowsName ('=' :: (lead ++ (value ++ (tail ++ SettingsLine.commentChars comment?)))) :=
        fun c first => Or.inl (Option.some.inj first).symm
      rw [SettingsLine.chars, ofLine?_head headed follows]
      have text := valueText_eq leading plain trailing fun comment given => (commented comment given).2
      exact congrArg (fun value => some (Binding.mk (String.ofList head.name) (some value))) text

end Binding
end GameLogs
