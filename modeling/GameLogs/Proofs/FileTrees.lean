import GameLogs.FileTree
namespace GameLogs

/-! What changes of a file tree leave alone.

A path that can be walked leads to one place, which its names tell.  An entry that is put where no directory
stands changes no way through directories, and no content at any other place.
-/

namespace FilePath

def descend (place : FilePath) (name : String) : FilePath :=
  if name = ".." then place.parent else place ++ [name]

/-- Where a path leads if every name on its way stands for a directory. -/
def place (path : FilePath) : FilePath := path.foldl descend []

/-- What a path has to be for the file system to take it. -/
structure Accepted (path : FilePath) : Prop where
  nonzero : (path.any fun name => name.toList.contains '\x00') = false
  bounded : path.text.utf8ByteSize ≤ FileTree.maxPath
  names : ∀ name ∈ path, name.utf8ByteSize ≤ FileTree.maxName

variable {path : FilePath} {name : String}

theorem place_append_name (proper : name ≠ "..") : place (path ++ [name]) = path.place ++ [name] := by
  rw [place, List.foldl_append, List.foldl_cons, List.foldl_nil, descend, if_neg proper, place]

end FilePath

namespace FileTree

variable {tree after : FileTree} {path given other place final : FilePath} {names rest : List String}
  {entry reached : FileEntry} {found : Option FileEntry} {fault : FileFault} {name content : String}

/-- The content of the file at a place, if there is one. -/
def contentAt? (tree : FileTree) (place : FilePath) : Option String :=
  match tree.lookup? place with
  | some (.file content) => some content
  | _ => none

theorem contentAt?_put_of_ne (different : other ≠ place) :
    contentAt? (Entries.put tree place entry) other = tree.contentAt? other := by
  rw [contentAt?, lookup?_put_of_ne different, contentAt?]

theorem contentAt?_put_file (below : place.isAbove = false) :
    contentAt? (Entries.put tree place (.file content)) place = some content := by
  rw [contentAt?, lookup?_put_self below]

theorem below_of_lookup? (free : tree.lookup? place ≠ some .directory) : place.isAbove = false := by
  rw [Bool.eq_false_iff]
  exact fun above => free (if_pos above)

/-- A directory that is put where nothing stood holds no content, as before. -/
theorem contentAt?_put_directory (free : tree.lookup? place = none) :
    contentAt? (Entries.put tree place .directory) other = tree.contentAt? other := by
  by_cases same : other = place
  · have blocked : tree.lookup? place ≠ some .directory := by simp [free]
    have below : place.isAbove = false := below_of_lookup? blocked
    rw [same, contentAt?, lookup?_put_self below, contentAt?, free]
  · exact contentAt?_put_of_ne same

/-- Names that lead from an entry at a place to a final place and to what stands there.  Only the last
name may be one of nothing. -/
inductive Leads (tree : FileTree) : FilePath → FileEntry → List String → FilePath → Option FileEntry → Prop
  | here {place : FilePath} {entry : FileEntry} : Leads tree place entry [] place (some entry)
  | up {place final : FilePath} {name : String} {rest : List String} {found : Option FileEntry} :
      name.utf8ByteSize ≤ maxName → name = ".." → Leads tree place.parent .directory rest final found →
      Leads tree place .directory (name :: rest) final found
  | down {place final : FilePath} {name : String} {rest : List String} {entry : FileEntry}
      {found : Option FileEntry} : name.utf8ByteSize ≤ maxName → name ≠ ".." →
      tree.lookup? (place ++ [name]) = some entry → Leads tree (place ++ [name]) entry rest final found →
      Leads tree place .directory (name :: rest) final found
  | missing {place : FilePath} {name : String} : name.utf8ByteSize ≤ maxName → name ≠ ".." →
      tree.lookup? (place ++ [name]) = none → Leads tree place .directory [name] (place ++ [name]) none

theorem leads_of_walk (walked : tree.walk given place entry names = .ok (final, found)) :
    tree.Leads place entry names final found := by
  induction names generalizing place entry with
  | nil =>
      cases walked
      exact .here
  | cons name rest ih =>
      cases entry with
      | file => cases walked
      | directory =>
          rw [walk] at walked
          split at walked
          case isTrue => cases walked
          case isFalse short =>
            replace short := Nat.le_of_not_lt short
            split at walked
            case isTrue parent => exact .up short parent (ih walked)
            case isFalse proper =>
              split at walked
              case h_1 entry stored => exact .down short proper stored (ih walked)
              case h_2 missing =>
                split at walked
                case isTrue last =>
                  subst last
                  cases walked
                  exact .missing short proper missing
                case isFalse => cases walked

theorem Leads.walk_eq (leads : tree.Leads place entry names final found) :
    tree.walk given place entry names = .ok (final, found) := by
  induction leads with
  | here => rfl
  | up short parent _ ih => rw [walk, if_neg (Nat.not_lt.mpr short), if_pos parent, ih]
  | down short proper stored _ ih => rw [walk, if_neg (Nat.not_lt.mpr short), if_neg proper, stored]; exact ih
  | missing short proper free => rw [walk, if_neg (Nat.not_lt.mpr short), if_neg proper, free]; rfl

namespace Leads

theorem foldl_descend (leads : tree.Leads place entry names final found) :
    names.foldl FilePath.descend place = final := by
  induction leads with
  | here => rfl
  | up _ parent _ ih => rw [List.foldl_cons, FilePath.descend, if_pos parent, ih]
  | down _ proper _ _ ih => rw [List.foldl_cons, FilePath.descend, if_neg proper, ih]
  | missing _ proper _ => rw [List.foldl_cons, FilePath.descend, if_neg proper, List.foldl_nil]

theorem short_of_mem (leads : tree.Leads place entry names final found) :
    ∀ name ∈ names, name.utf8ByteSize ≤ maxName := by
  induction leads with
  | here => simp
  | up short _ _ ih => exact List.forall_mem_cons.mpr ⟨short, ih⟩
  | down short _ _ _ ih => exact List.forall_mem_cons.mpr ⟨short, ih⟩
  | missing short _ _ => simpa using short

theorem append (first : tree.Leads place entry names other (some reached))
    (second : tree.Leads other reached rest final found) :
    tree.Leads place entry (names ++ rest) final found := by
  generalize stands : some reached = stop at first
  induction first with
  | here => cases stands; exact second
  | up short parent _ ih => exact .up short parent (ih second stands)
  | down short proper stored _ ih => exact .down short proper stored (ih second stands)
  | missing => cases stands

/-- What a walk that starts in a directory finds beside directories is stored at its last place. -/
theorem lookup?_eq (leads : tree.Leads place entry names final found) (started : entry = .directory)
    (free : found ≠ some .directory) : tree.lookup? final = found := by
  induction leads with
  | here => exact absurd (congrArg some started) free
  | up _ _ _ ih => exact ih rfl free
  | down _ _ stored onward ih =>
      cases onward with
      | here => exact stored
      | up => exact ih rfl free
      | down => exact ih rfl free
      | missing => exact ih rfl free
  | missing _ _ absent => exact absent

theorem starts_in_directory (leads : tree.Leads place entry names final (some .directory)) :
    entry = .directory := by
  cases leads <;> rfl

/-- A way through directories stays when an entry is put elsewhere. -/
theorem put (leads : tree.Leads place entry names final (some .directory))
    (free : tree.lookup? other ≠ some .directory) :
    Leads (Entries.put tree other reached) place entry names final (some .directory) := by
  generalize stands : some FileEntry.directory = found at leads ⊢
  induction leads with
  | here => exact .here
  | up short parent _ ih => exact .up short parent (ih stands)
  | @down place final name rest entry found short proper stored onward ih =>
      subst stands
      obtain rfl := onward.starts_in_directory
      have different : place ++ [name] ≠ other := fun same => free (same ▸ stored)
      exact .down short proper ((lookup?_put_of_ne different).trans stored) (ih rfl)
  | missing => cases stands

/-- A way to a file or to nothing leads to what is put there. -/
theorem put_final (leads : tree.Leads place entry names final found) (started : entry = .directory)
    (free : found ≠ some .directory) :
    Leads (Entries.put tree final reached) place entry names final (some reached) := by
  have below : final.isAbove = false := below_of_lookup? (leads.lookup?_eq started free ▸ free)
  induction leads with
  | here => exact absurd (congrArg some started) free
  | up short parent _ ih => exact .up short parent (ih rfl free below)
  | @down place final name rest entry found short proper stored onward ih =>
      cases entry with
      | directory =>
          have different : place ++ [name] ≠ final := by
            rintro rfl
            exact free (onward.lookup?_eq rfl free ▸ stored)
          exact .down short proper ((lookup?_put_of_ne different).trans stored) (ih rfl free below)
      | file =>
          cases onward
          exact .down short proper (lookup?_put_self below) .here
  | missing short proper _ => exact .down short proper (lookup?_put_self below) .here

end Leads

theorem resolve_eq_ok_iff : tree.resolve path = .ok (final, found) ↔
    path.Accepted ∧ tree.Leads [] .directory path final found := by
  rw [resolve]
  constructor
  · intro resolved
    split at resolved
    case isTrue => cases resolved
    case isFalse nonzero =>
      split at resolved
      case isTrue => cases resolved
      case isFalse bounded =>
        have leads := leads_of_walk resolved
        exact ⟨⟨Bool.eq_false_iff.mpr nonzero, Nat.le_of_not_lt bounded, leads.short_of_mem⟩, leads⟩
  · rintro ⟨accepted, leads⟩
    rw [if_neg (Bool.eq_false_iff.mp accepted.nonzero), if_neg (Nat.not_lt.mpr accepted.bounded), leads.walk_eq]

/-- A path that leads to a directory. -/
structure Stands (tree : FileTree) (path : FilePath) : Prop where
  accepted : path.Accepted
  leads : tree.Leads [] .directory path path.place (some .directory)

theorem Stands.put (stands : tree.Stands path) (free : tree.lookup? other ≠ some .directory) :
    Stands (Entries.put tree other entry) path :=
  ⟨stands.accepted, stands.leads.put free⟩

theorem makeDirectory_cases (made : tree.makeDirectory path = .ok after) :
    after.Stands path ∧
      (after = tree ∨ tree.lookup? path.place = none ∧ after = Entries.put tree path.place .directory) := by
  rw [makeDirectory] at made
  split at made
  case h_1 => cases made
  case h_2 resolved =>
    obtain ⟨accepted, leads⟩ := resolve_eq_ok_iff.mp resolved
    obtain rfl := leads.foldl_descend
    cases made
    exact ⟨⟨accepted, leads⟩, .inl rfl⟩
  case h_3 => cases made
  case h_4 resolved =>
    obtain ⟨accepted, leads⟩ := resolve_eq_ok_iff.mp resolved
    obtain rfl := leads.foldl_descend
    cases made
    exact ⟨⟨accepted, leads.put_final rfl (by simp)⟩, .inr ⟨leads.lookup?_eq rfl (by simp), rfl⟩⟩

theorem contentAt?_makeDirectory (made : tree.makeDirectory path = .ok after) :
    after.contentAt? place = tree.contentAt? place := by
  obtain ⟨_, rfl | ⟨free, rfl⟩⟩ := makeDirectory_cases made
  · rfl
  · exact contentAt?_put_directory free

/-- Opening and filling a file puts the text at the place of its path, where it is read. -/
theorem openEmpty_cases (opened : tree.openEmpty path = .ok (place, after)) (content : String) :
    path.Accepted ∧ tree.lookup? path.place ≠ some .directory ∧ place = path.place ∧
      after.fill place content = Entries.put tree path.place (.file content) ∧
      (after.fill place content).read? path = some content := by
  rw [openEmpty] at opened
  split at opened
  case h_1 => cases opened
  case h_2 => cases opened
  case h_3 final found free resolved =>
    obtain ⟨accepted, leads⟩ := resolve_eq_ok_iff.mp resolved
    obtain rfl := leads.foldl_descend
    cases opened
    refine ⟨accepted, leads.lookup?_eq rfl free ▸ free, rfl, Entries.put_put_self, ?_⟩
    rw [fill, Entries.put_put_self, FileTree.read?, resolve_eq_ok_iff.mpr ⟨accepted, leads.put_final rfl free⟩]

/-- In a directory that stands, a file is read at the place of its name. -/
theorem Stands.read? (stands : tree.Stands path) (proper : name ≠ "..") (accepted : (path ++ [name]).Accepted) :
    tree.read? (path ++ [name]) = tree.contentAt? (path.place ++ [name]) := by
  have short : name.utf8ByteSize ≤ maxName := accepted.names name (by simp)
  have resolved : tree.resolve (path ++ [name]) = .ok (path.place ++ [name], tree.lookup? (path.place ++ [name])) := by
    refine resolve_eq_ok_iff.mpr ⟨accepted, stands.leads.append ?_⟩
    cases stored : tree.lookup? (path.place ++ [name]) with
    | none => exact .missing short proper stored
    | some entry => exact .down short proper stored .here
  rw [FileTree.read?, resolved, contentAt?]
  rcases tree.lookup? (path.place ++ [name]) with _ | _ | _ <;> rfl

end FileTree
end GameLogs
