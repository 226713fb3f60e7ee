import ScriptTrace.Text.Lines

/-! Paths as text and as components.
Paths are shown and opened as written, and compared by their components. -/
namespace ScriptTrace.Path

/-- A step of a path. -/
inductive Component where
  | root
  /-- The working folder, where a path says so in front. -/
  | here
  | up
  | name (s : Text)
  deriving DecidableEq, Repr

/-- The component that a segment stands for inside a path, where empty segments and single dots
stand for nothing. -/
def inner? (segment : Text) : Option Component :=
  if segment = [] ∨ segment = ['.'] then none
  else if segment = ['.', '.'] then some .up
  else some (.name segment)

def components (path : Text) : List Component :=
  match path.splitOn '/' with
  | [] => []
  | [] :: rest =>
    if rest = [] then [] else .root :: rest.filterMap inner?
  | first :: rest =>
    (if first = ['.'] then [.here] else (inner? first).toList) ++ rest.filterMap inner?

/-- The path `rest` taken from `base`, which an absolute path replaces. -/
def join (base rest : Text) : Text :=
  if rest.head? = some '/' then rest
  else if base = [] ∨ base.getLast? = some '/' then base ++ rest
  else base ++ ['/'] ++ rest

def fileName? (path : Text) : Option Text :=
  match (components path).getLast? with
  | some (.name s) => some s
  | _ => none

def extension? (path : Text) : Option Text :=
  (fileName? path).bind fun name =>
    match Text.cutLast? ['.'] name with
    -- a dot in front only hides the file
    | some (before, rest) => if before = [] then none else some rest
    | none => none

end ScriptTrace.Path
