import BitmapFont.Text.Lines

/-!
# Paths

A path is a text of segments between slashes. A path that starts with a slash is absolute. Empty
segments and single dots say nothing, except for a dot at the start of a relative path.

## Main definitions

- `Path.components` — what a path says
- `Path.join` — a path seen from a directory
- `Path.parent?`, `Path.fileName?`, `Path.fileStem?` — the parts of a path
- `Path.withExtension?` — the name of the file that goes with another
-/

namespace BitmapFont

/-- The place of a file, as it is written. -/
structure Path where
  text : String
  deriving DecidableEq

/-- One step of a path. -/
inductive PathComponent
  | root
  | current
  | parent
  | normal (name : List Char)
  deriving DecidableEq

namespace Path

/-- Whether a segment says nothing: it is empty or a single dot. -/
def isIdle (segment : List Char) : Bool :=
  segment = [] || segment = ['.']

/-- What a segment says. -/
def segmentComponent? (segment : List Char) : Option PathComponent :=
  if isIdle segment then none
  else if segment = ['.', '.'] then some .parent
  else some (.normal segment)

/-- The slash at the start of an absolute path or the dot at the start of a relative one, and the
segments of what follows. -/
def split : List Char → List Char × List (List Char)
  | '/' :: rest => (['/'], Text.pieces '/' rest)
  | ['.'] => (['.'], [[]])
  | '.' :: '/' :: rest => (['.'], Text.pieces '/' ('/' :: rest))
  | s => ([], Text.pieces '/' s)

/-- Segments without those at the end that say nothing. -/
def dropIdle (segments : List (List Char)) : List (List Char) :=
  (segments.reverse.dropWhile isIdle).reverse

/-- Whether a path does not depend on the current directory. -/
def isAbsolute (p : Path) : Bool :=
  p.text.toList.head? = some '/'

/-- The component that the start of a path stands for. -/
def leadComponent? : List Char → Option PathComponent
  | ['/'] => some .root
  | ['.'] => some .current
  | _ => none

/-- The components of a path. -/
def components (p : Path) : List PathComponent :=
  let (lead, segments) := split p.text.toList
  (leadComponent? lead).toList ++ segments.filterMap segmentComponent?

/-- The name of the file that a path leads to, if its last component is a name. -/
def fileName? (p : Path) : Option (List Char) :=
  match p.components.getLast? with
  | some (.normal name) => some name
  | _ => none

/-- The path up to its last component, if it has one below the root. -/
def parent? (p : Path) : Option Path :=
  let (lead, segments) := split p.text.toList
  match dropIdle segments with
  | [] => if lead = ['.'] then some ⟨""⟩ else none
  | named => some ⟨String.ofList (lead ++ ['/'].intercalate (dropIdle named.dropLast))⟩

/-- A path as seen from the directory `base`. An absolute path stays as it is. -/
def join (base p : Path) : Path :=
  if p.isAbsolute then p
  else
    let s := base.text.toList
    let slash := if s = [] ∨ s.getLast? = some '/' then "" else "/"
    ⟨base.text ++ slash ++ p.text⟩

/-- The part of a file name before its last dot. A name without a dot, or with no dot but the one
at its start, has only this part. -/
def stem (name : List Char) : List Char :=
  let before := ['.'].intercalate (Text.pieces '.' name).dropLast
  if before = [] then name else before

/-- The name of the file that a path leads to, without its extension. -/
def fileStem? (p : Path) : Option (List Char) :=
  p.fileName?.map stem

/-- The name with the given extension that goes with the file that a path leads to. -/
def withExtension? (p : Path) (extension : String) : Option Path :=
  p.fileStem?.map fun s => ⟨String.ofList s ++ "." ++ extension⟩

end Path

end BitmapFont
