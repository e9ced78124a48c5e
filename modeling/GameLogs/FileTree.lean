import GameLogs.Entries
import GameLogs.Text.Quoted
namespace GameLogs

/-! Files below a working directory.

A path is a row of names.  A tree lists the directories and files that exist; the working directory
itself and those above it always do.
-/

/-- A path from the working directory; no names stand for that directory itself. -/
abbrev FilePath : Type := List String

namespace FilePath

/-- The names of a path text.  Empty names and single points do not count. -/
def ofText (text : String) : FilePath :=
  ((text.toList.splitOnP (· == '/')).map String.ofList).filter fun name => name != "" && name != "."

def text (path : FilePath) : String :=
  if path = [] then "." else "/".intercalate path

/-- Whether a path leads to the working directory or to one above it. -/
def isAbove (path : FilePath) : Bool := path.all fun name => name == ".."

def parent (place : FilePath) : FilePath :=
  if place.isAbove then place ++ [".."] else place.dropLast

end FilePath

inductive FileFault where
  | missing (path : FilePath)
  | alreadyThere (path : FilePath)
  | notDirectory (path : FilePath)
  | isDirectory (path : FilePath)
  | nameTooLong (path : FilePath)
  /-- The path holds the character that ends names. -/
  | zeroCharacter
deriving DecidableEq, Repr

def FileFault.message : FileFault → String
  | .missing path => s!"[Errno 2] No such file or directory: {Text.quoted path.text}"
  | .alreadyThere path => s!"[Errno 17] File exists: {Text.quoted path.text}"
  | .notDirectory path => s!"[Errno 20] Not a directory: {Text.quoted path.text}"
  | .isDirectory path => s!"[Errno 21] Is a directory: {Text.quoted path.text}"
  | .nameTooLong path => s!"[Errno 36] File name too long: {Text.quoted path.text}"
  | .zeroCharacter => "embedded null byte"

inductive FileEntry where
  | directory
  | file (content : String)
deriving DecidableEq, Repr

/-- The directories and files by their places. -/
abbrev FileTree : Type := Entries FilePath FileEntry

namespace FileTree

/-- The longest name and the longest path, in bytes. -/
def maxName : Nat := 255

def maxPath : Nat := 4095

def lookup? (tree : FileTree) (path : FilePath) : Option FileEntry :=
  if path.isAbove then some .directory else tree.item? path

/-- What stands at a path, reached name by name from a directory.  `given` is the path that a fault
names. -/
def walk (tree : FileTree) (given : FilePath) :
    FilePath → FileEntry → List String → Except FileFault (FilePath × Option FileEntry)
  | place, entry, [] => .ok (place, some entry)
  | _, .file _, _ :: _ => .error (.notDirectory given)
  | place, .directory, name :: rest =>
      if maxName < name.utf8ByteSize then .error (.nameTooLong given)
      else if name = ".." then walk tree given place.parent .directory rest
      else
        match tree.lookup? (place ++ [name]) with
        | some entry => walk tree given (place ++ [name]) entry rest
        | none => if rest = [] then .ok (place ++ [name], none) else .error (.missing given)

def resolve (tree : FileTree) (path : FilePath) :
    Except FileFault (FilePath × Option FileEntry) :=
  if path.any fun name => name.toList.contains '\x00' then .error .zeroCharacter
  else if maxPath < path.text.utf8ByteSize then .error (.nameTooLong path)
  else walk tree path [] .directory path

/-- Makes a directory, unless it exists.  Its parent has to exist. -/
def makeDirectory (tree : FileTree) (path : FilePath) : Except FileFault FileTree :=
  match tree.resolve path with
  | .error fault => .error fault
  | .ok (_, some .directory) => .ok tree
  | .ok (_, some (.file _)) => .error (.alreadyThere path)
  | .ok (place, none) => .ok (tree.put place .directory)

/-- Opens a file for writing: it is empty from then on, whatever it held.  Gives its place. -/
def openEmpty (tree : FileTree) (path : FilePath) : Except FileFault (FilePath × FileTree) :=
  match tree.resolve path with
  | .error fault => .error fault
  | .ok (_, some .directory) => .error (.isDirectory path)
  | .ok (place, _) => .ok (place, tree.put place (.file ""))

/-- Fills the file at a place, which has been opened. -/
def fill (tree : FileTree) (place : FilePath) (content : String) : FileTree :=
  tree.put place (.file content)

/-- The content of the file that a path leads to. -/
def read? (tree : FileTree) (path : FilePath) : Option String :=
  match tree.resolve path with
  | .ok (_, some (.file content)) => some content
  | _ => none

theorem lookup?_put_self {tree : FileTree} {place : FilePath} {entry : FileEntry}
    (below : place.isAbove = false) : lookup? (Entries.put tree place entry) place = some entry := by
  simp [lookup?, below]

theorem lookup?_put_of_ne {tree : FileTree} {place other : FilePath} {entry : FileEntry}
    (different : other ≠ place) :
    lookup? (Entries.put tree place entry) other = tree.lookup? other := by
  simp [lookup?, Entries.item?_put_of_ne different]

def files (tree : FileTree) : List FilePath :=
  tree.filterMap fun entry =>
    match entry.2 with
    | .file _ => if entry.1.head? = some ".." then none else some entry.1
    | .directory => none

end FileTree
end GameLogs
