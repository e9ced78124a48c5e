import GameLogs.Schema
import GameLogs.Text.Blank
namespace GameLogs

/-! Connection settings from the environment and a settings file.

A line of the file sets a variable, and the file goes before the environment.  A variable counts as
set by its last line alone: a line without `=` leaves it to the environment.
-/

/-- A line of a settings file that names a variable. -/
structure Binding where
  name : String
  /-- What the line sets, or nothing if it has no `=`. -/
  value? : Option String
deriving DecidableEq, Repr

namespace Binding

def isNameChar (c : Char) : Bool := !Text.isSpace c && c != '=' && c != '#'

/-- The characters in front of the first blank that is followed by a comment. -/
def beforeComment : List Char → List Char
  | [] => []
  | c :: rest =>
      if Text.isSpace c && (rest.dropWhile Text.isSpace).head? == some '#' then []
      else c :: beforeComment rest

def valueText (chars : List Char) : String :=
  String.ofList (Text.trimRight (beforeComment (chars.dropWhile Text.isInlineSpace)))

/-- A line without the word that marks it for other programs. -/
def withoutExport (chars : List Char) : List Char :=
  match chars with
  | 'e' :: 'x' :: 'p' :: 'o' :: 'r' :: 't' :: c :: rest =>
      if Text.isInlineSpace c then rest.dropWhile Text.isInlineSpace else chars
  | _ => chars

/-- Reads one line; blank lines, comments and lines that are no setting give nothing. -/
def ofLine? (line : List Char) : Option Binding :=
  let chars := withoutExport (line.dropWhile Text.isSpace)
  let name := chars.takeWhile isNameChar
  let rest := (chars.dropWhile isNameChar).dropWhile Text.isInlineSpace
  if name = [] then none
  else
    match rest with
    | [] | '#' :: _ => some ⟨String.ofList name, none⟩
    | '=' :: value => some ⟨String.ofList name, some (valueText value)⟩
    | _ => none

def lines : List Char → List (List Char)
  | [] => [[]]
  | c :: rest =>
      if c = '\n' ∨ c = '\r' then [] :: lines rest
      else
        match lines rest with
        | [] => [[c]]
        | line :: others => (c :: line) :: others

def ofText (text : String) : List Binding := (lines text.toList).filterMap ofLine?

end Binding

abbrev Environment := List (String × String)

namespace Environment

/-- The value that counts for a variable: of its last line in the settings file if that line sets
it, of the environment otherwise. -/
def value? (environment : Environment) (bindings : List Binding) (name : String) :
    Option String :=
  let last? := bindings.reverse.find? fun binding => binding.name == name
  match last?.bind Binding.value? with
  | some value => some value
  | none => environment.lookup name

end Environment

structure Connection where
  address : String
  database : String
deriving DecidableEq, Repr

namespace Connection

def nonempty? (value? : Option String) : Option String := value?.filter fun value => value != ""

/-- The address that is put together from single variables; one that is not set reads `None`. -/
def composedAddress (value? : String → Option String) : String :=
  let part (name : String) : String := (value? name).getD "None"
  "mongodb://" ++ part "MONGO_USER" ++ ":" ++ part "MONGO_PASSWORD" ++ "@" ++ part "MONGO_HOST" ++
    ":" ++ part "MONGO_PORT" ++ "/?authSource=" ++ part "MONGO_AUTH_SOURCE" ++
    "&readPreference=primary&directConnection=true&ssl=false"

/-- The connection that some variables describe: a full address goes before its parts. -/
def ofVariables (value? : String → Option String) : Connection where
  address := (nonempty? (value? "MONGO_URI")).getD (composedAddress value?)
  database := (nonempty? (value? "MONGO_DATABASE")).getD Schema.standardDatabase

/-- The connection that an environment and the text of a settings file describe. -/
def read (environment : Environment) (settings : String) : Connection :=
  ofVariables (environment.value? (Binding.ofText settings))

end Connection
end GameLogs
