import ScriptTrace.Disk.Path
import ScriptTrace.Source.Index

/-! The cache of definition tables.
Paths with the same components share a table, whichever of them was indexed first. -/
namespace ScriptTrace
open Source

/-- What an indexer makes of a file: a table or an error, and what the log tells of it. -/
structure Indexing where
  /-- The table, or why there is none. -/
  result : Except IndexError Table
  log : List Log.Record

namespace Indexing

/-- The table, which is empty when indexing failed. -/
def table (i : Indexing) : Table :=
  match i.result with
  | .ok table => table
  | .error _ => []

end Indexing

/-- Tables of the files looked up since the last reset, the latest first. -/
structure Cache where
  /-- Components of a path with the table of the file. -/
  tables : List (List Path.Component × Table)
  deriving DecidableEq, Repr

namespace Cache

def empty : Cache := ⟨[]⟩

def size (c : Cache) : Nat := c.tables.length

def find? (c : Cache) (path : Text) : Option Table :=
  c.tables.lookup (Path.components path)

def insert (c : Cache) (path : Text) (table : Table) : Cache :=
  ⟨(Path.components path, table) :: c.tables⟩

theorem find?_insert (c : Cache) (path : Text) (table : Table) (q : Text) :
    (c.insert path table).find? q =
      if Path.components q = Path.components path then some table else c.find? q :=
  Table.lookup_cons_eq_ite _ c.tables _

end Cache

namespace Source.Table

/-- The line of a name, zero when the table does not have it. -/
def lineOf (table : Table) (name : Text) : Nat :=
  (table.lookup name).getD 0

end Source.Table
end ScriptTrace
