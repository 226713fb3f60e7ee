import ScriptTrace.Disk.Error
import ScriptTrace.Disk.Path
import ScriptTrace.Text.Utf8

/-! Files under one working folder, as a value.
Reading follows a path segment by segment, so a file on the way and a folder at the end are told
apart from nothing at all. -/
namespace ScriptTrace

/-- What is at a place of the tree. -/
inductive Entry where
  | file (bytes : Utf8.Bytes)
  | folder
  deriving DecidableEq, Repr

/-- The entries below the working folder, each under the names that lead to it. -/
structure Disk where
  /-- Names and entry, one pair for each place. -/
  entries : List (List Text × Entry)
  deriving DecidableEq, Repr

namespace Disk

def empty : Disk := ⟨[]⟩

/-- What is at a place. The working folder itself is always there. -/
def at? (disk : Disk) (place : List Text) : Option Entry :=
  if place = [] then some .folder else disk.entries.lookup place

def put (disk : Disk) (place : List Text) (entry : Entry) : Disk :=
  ⟨disk.entries.filter (·.1 ≠ place) ++ [(place, entry)]⟩

/-- The names of a relative path, without empty ones and single dots. -/
def names (path : Text) : List Text :=
  (path.splitOn '/').filter fun s => s ≠ [] ∧ s ≠ ['.']

def addFolder (disk : Disk) (place : List Text) : Disk :=
  if (disk.at? place).isNone then disk.put place .folder else disk

def write (disk : Disk) (path : Text) (bytes : Utf8.Bytes) : Disk :=
  let place := names path
  let parents := (List.range place.length).map place.take
  (parents.foldl addFolder disk).put place (.file bytes)

def remove (disk : Disk) (path : Text) : Disk :=
  ⟨disk.entries.filter (·.1 ≠ names path)⟩

def nameLimit : Nat := 255

/-- Bytes that a path may have, and one. -/
def pathLimit : Nat := 4096

/-- Follows segments from a place, with `none` for a folder above the working folder, of which
only the way further up is known. -/
def follow (disk : Disk) : Option (List Text) → List Text → Except FileError (Option (List Text))
  | place, [] => .ok place
  | place, segment :: rest =>
    match place.elim (some .folder) disk.at? with
    | none => .error .notFound
    | some (.file _) => .error .notFolder
    | some .folder =>
      if segment = [] ∨ segment = ['.'] then disk.follow place rest
      else if segment = ['.', '.'] then
        disk.follow (place.bind fun names => if names = [] then none else some names.dropLast) rest
      else if nameLimit < Text.byteCount segment then .error .nameTooLong
      else
        match place with
        | none => .error .notFound
        | some names => disk.follow (some (names ++ [segment])) rest

def resolve (disk : Disk) (path : Text) : Except FileError (Option (List Text)) :=
  if path.contains '\x00' then .error .nullInPath
  else if path = [] then .error .notFound
  else if pathLimit ≤ Text.byteCount path then .error .nameTooLong
  -- of an absolute path only the folders above the working folder are known
  else disk.follow (if path.head? = some '/' then none else some []) (path.splitOn '/')

def read (disk : Disk) (path : Text) : Except FileError Utf8.Bytes :=
  match disk.resolve path with
  | .error e => .error e
  | .ok place =>
    match place.elim (some .folder) disk.at? with
    | none => .error .notFound
    | some .folder => .error .isFolder
    | some (.file bytes) => .ok bytes

def placeLe (a b : List Text) : Bool :=
  !List.lex b a fun s t => List.lex s t fun c d => c.toNat < d.toNat

/-- The paths of everything at and below `root`, in the order of their places. -/
def walk (disk : Disk) (root : Text) : List Text :=
  match disk.resolve root with
  | .error _ => []
  | .ok none => []
  | .ok (some place) =>
    if (disk.at? place).isNone then []
    else
      let below := disk.entries.filterMap fun (p, _) => List.isPrefixOf? place p
      let found := ([] :: below.filter (· ≠ [])).mergeSort placeLe
      found.map fun rest => rest.foldl Path.join root

end Disk
end ScriptTrace
