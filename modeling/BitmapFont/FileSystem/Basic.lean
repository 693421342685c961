import BitmapFont.Path
import BitmapFont.Text.Utf8

/-!
# File systems

A file system is a tree of directories and files. Paths are followed from the root or from the
current directory; what goes wrong on the way is told by an `OsError`.

## Main definitions

- `FileSystem` — a tree of directories and files
- `FileSystem.walk` — the place that a path leads to
- `FileSystem.read`, `FileSystem.isFile`, `FileSystem.contains` — what is found there
- `FileSystem.add`, `FileSystem.remove`, `FileSystem.put` — changes of one entry

## Design notes

Entries are kept in one list, each under the names that lead to it from the root. The root itself
needs no entry. A change that would leave an entry outside of every directory is not made.
-/

namespace BitmapFont

/-- Why the operating system refuses a path. -/
inductive OsError
  | notFound
  | notDirectory
  | isDirectory
  | busy
  | nameTooLong
  /-- The new name of a file contains a zero character. -/
  | invalidArgument
  /-- The path of a file to open contains a zero character, which ends a path. -/
  | nulInPath
  /-- Every name that was tried for a temporary file is taken. -/
  | namesTaken
  deriving DecidableEq

/-- The text of an error. -/
def OsError.message : OsError → String
  | notFound => "No such file or directory (os error 2)"
  | notDirectory => "Not a directory (os error 20)"
  | isDirectory => "Is a directory (os error 21)"
  | busy => "Device or resource busy (os error 16)"
  | nameTooLong => "File name too long (os error 36)"
  | invalidArgument => "Invalid argument (os error 22)"
  | nulInPath => "file name contained an unexpected NUL byte"
  | namesTaken => "too many temporary files exist"

/-- The names that lead to a place from the root. -/
abbrev Location := List String

/-- What is found at a place. -/
inductive Entry
  | directory
  | file (content : List UInt8)
  deriving DecidableEq

/-- What is found at a place among given entries, if anything. The root is a directory. -/
def findEntry (entries : List (Location × Entry)) (place : Location) : Option Entry :=
  if place = [] then some .directory else entries.lookup place

/-- Whether entries make up a tree: no place has two of them, and each is in a directory. -/
structure IsTree (entries : List (Location × Entry)) : Prop where
  distinct : (entries.map (·.1)).Nodup
  inside : ∀ e ∈ entries, findEntry entries e.1.dropLast = some .directory

instance (entries : List (Location × Entry)) : Decidable (IsTree entries) :=
  decidable_of_iff (_ ∧ _) ⟨fun h => ⟨h.1, h.2⟩, fun h => ⟨h.distinct, h.inside⟩⟩

section

variable {entries : List (Location × Entry)} {place other : Location}

theorem isTree_nil : IsTree [] :=
  ⟨List.nodup_nil, fun _ h => absurd h List.not_mem_nil⟩

theorem not_mem_of_findEntry (free : findEntry entries place = none) :
    place ∉ entries.map (·.1) := by
  intro mem
  obtain ⟨e, he, rfl⟩ := List.mem_map.1 mem
  unfold findEntry at free
  split at free
  · exact absurd free (Option.some_ne_none _)
  · exact absurd (List.lookup_eq_none_iff.1 free e he) (by simp)

/-- What is found at a place is still found there among more entries. -/
theorem findEntry_append {e : Entry} (found : findEntry entries place = some e)
    (more : List (Location × Entry)) : findEntry (entries ++ more) place = some e := by
  unfold findEntry at found ⊢
  split at found
  case isTrue root => rw [if_pos root, found]
  case isFalse below => rw [if_neg below, List.lookup_append, found, Option.some_or]

/-- The same is found elsewhere without the entries of a place. -/
theorem findEntry_filter (different : other ≠ place) :
    findEntry (entries.filter (·.1 != place)) other = findEntry entries other := by
  unfold findEntry
  congr 1
  induction entries with
  | nil => rfl
  | cons first rest ih =>
    by_cases here : first.1 = place
    · have elsewhere : (other == first.1) = false := beq_eq_false_iff_ne.2 (here ▸ different)
      rw [List.filter_cons_of_neg (by simp [here]), ih, List.lookup_cons, elsewhere]
    · rw [List.filter_cons_of_pos (by simp [here]), List.lookup_cons, List.lookup_cons, ih]

/-- A tree is still one without a file. -/
theorem IsTree.filter (tree : IsTree entries) (h : findEntry entries place ≠ some .directory) :
    IsTree (entries.filter (·.1 != place)) := by
  refine ⟨(List.filter_sublist.map _).nodup tree.distinct, fun e he => ?_⟩
  have inside := tree.inside e (List.mem_filter.1 he).1
  have different : e.1.dropLast ≠ place := fun same => h (same ▸ inside)
  rw [findEntry_filter different, inside]

/-- A tree with a new entry in one of its directories is one. -/
theorem IsTree.concat (tree : IsTree entries) (free : findEntry entries place = none)
    (inside : findEntry entries place.dropLast = some .directory) (entry : Entry) :
    IsTree (entries ++ [(place, entry)]) := by
  constructor
  case distinct =>
    rw [List.map_append, List.nodup_append]
    refine ⟨tree.distinct, by simp, ?_⟩
    rintro other old new hnew rfl
    obtain rfl : other = place := by simpa using hnew
    exact not_mem_of_findEntry free old
  case inside =>
    intro e he
    obtain old | new := List.mem_append.1 he
    · exact findEntry_append (tree.inside e old) _
    · rw [List.mem_singleton.1 new]
      exact findEntry_append inside _

end

/-- A tree of directories and files, with a current directory. -/
@[ext] structure FileSystem where
  entries : List (Location × Entry)
  current : Location
  isTree : IsTree entries

namespace FileSystem

/-- The greatest length of a file name, in bytes. -/
def maxNameBytes : Nat := 255

/-- The greatest length of a path, in bytes. -/
def maxPathBytes : Nat := 4095

/-- A file system with nothing but its root. -/
def empty : FileSystem := ⟨[], [], isTree_nil⟩

/-- What is found at a place, if anything. -/
def entry? (fs : FileSystem) (place : Location) : Option Entry :=
  findEntry fs.entries place

/-- The file system with a new entry at a free place in a directory. -/
def add (fs : FileSystem) (place : Location) (entry : Entry) : FileSystem :=
  if h : fs.entry? place = none ∧ fs.entry? place.dropLast = some .directory then
    ⟨fs.entries ++ [(place, entry)], fs.current, fs.isTree.concat h.1 h.2 entry⟩
  else fs

/-- The file system without the file at a place. A directory stays. -/
def remove (fs : FileSystem) (place : Location) : FileSystem :=
  if h : fs.entry? place = some .directory then fs
  else ⟨fs.entries.filter (·.1 != place), fs.current, fs.isTree.filter h⟩

/-- The file system with a file at a place in a directory. It replaces the file that was there. -/
def put (fs : FileSystem) (place : Location) (content : List UInt8) : FileSystem :=
  (fs.remove place).add place (.file content)

/-- The path of a place from the root. -/
def absolutePath (place : Location) : Path :=
  ⟨"/" ++ "/".intercalate place⟩

/-- A path as far as the rules that need no file system go. -/
def checkPath (p : Path) : Except OsError Unit :=
  if '\x00' ∈ p.text.toList then .error .nulInPath
  else if p.text = "" then .error .notFound
  else if maxPathBytes < Text.utf8Length p.text then .error .nameTooLong
  else .ok ()

/-- The place with a given name in a directory. -/
def child (place : Location) (name : List Char) : Except OsError Location :=
  if maxNameBytes < Text.utf8Length (String.ofList name) then .error .nameTooLong
  else .ok (place ++ [String.ofList name])

/-- Fails unless a place is a directory. -/
def requireDirectory (fs : FileSystem) (place : Location) : Except OsError Unit :=
  match fs.entry? place with
  | some .directory => .ok ()
  | some (.file _) => .error .notDirectory
  | none => .error .notFound

/-- The place that one segment of a path leads to from another place. -/
def step (fs : FileSystem) (place : Location) (segment : List Char) : Except OsError Location := do
  fs.requireDirectory place
  if Path.isIdle segment then return place
  if segment = ['.', '.'] then return place.dropLast
  let next ← child place segment
  if (fs.entry? next).isSome then return next
  throw .notFound

/-- The place where a path starts. -/
def origin (fs : FileSystem) (p : Path) : Location :=
  if p.isAbsolute then [] else fs.current

/-- The place that the segments of a path lead to. -/
def follow (fs : FileSystem) (start : Location) (segments : List (List Char)) :
    Except OsError Location :=
  segments.foldlM fs.step start

/-- The place that a path leads to. -/
def walk (fs : FileSystem) (p : Path) : Except OsError Location := do
  checkPath p
  fs.follow (fs.origin p) (Text.pieces '/' p.text.toList)

/-- The content of the file that a path leads to. -/
def read (fs : FileSystem) (p : Path) : Except OsError (List UInt8) := do
  let place ← fs.walk p
  match fs.entry? place with
  | some (.file content) => return content
  | some .directory => throw .isDirectory
  | none => throw .notFound

/-- Whether a path leads to a file. -/
def isFile (fs : FileSystem) (p : Path) : Bool :=
  (fs.read p).isOk

/-- Whether a path leads to a file or a directory. -/
def contains (fs : FileSystem) (p : Path) : Bool :=
  (fs.walk p).isOk

end FileSystem

end BitmapFont
