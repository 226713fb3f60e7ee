import ScriptTrace.Disk.Error
import ScriptTrace.Log
import ScriptTrace.Source.Line
import ScriptTrace.Text.Digits
import ScriptTrace.Text.Lines

/-! The definition index of a script source.
Every function name leads to the line of its last definition, if definitions open and close in
pairs. -/
namespace ScriptTrace

/-- Why a source has no index. -/
inductive IndexError where
  | unreadable (path : Text) (cause : FileError)
  | unmatchedEnd (line : Nat)
  | unterminated (name : Text) (line : Nat)
  deriving DecidableEq, Repr

namespace IndexError
open Text

def message : IndexError → Text
  | unreadable path cause =>
    "could not read '".toList ++ path ++ "': ".toList ++ cause.message
  | unmatchedEnd line =>
    "line ".toList ++ decimal line ++ ": `endfunction` without a matching `function`".toList
  | unterminated name line =>
    "line ".toList ++ decimal line ++ ": function '".toList ++ name ++ "' is never closed".toList

def help? : IndexError → Option Text
  | unterminated _ _ => some "every `function` needs a matching `endfunction`".toList
  | _ => none

end IndexError

namespace Source
open Text

/-- Function names with the lines of their definitions, one line for each name. -/
abbrev Table := List (Text × Nat)

namespace Table

/-- Gives a name a line, instead of the one it had. -/
def insert (table : Table) (name : Text) (line : Nat) : Table :=
  table.filter (·.1 ≠ name) ++ [(name, line)]

def listing (table : Table) : Table :=
  table.mergeSort fun a b => a.2 ≤ b.2

theorem lookup_cons_eq_ite {α β : Type} [BEq α] [LawfulBEq α] [DecidableEq α] (entry : α × β)
    (entries : List (α × β)) (key : α) :
    List.lookup key (entry :: entries) =
      if key = entry.1 then some entry.2 else entries.lookup key := by
  rw [List.lookup_cons]
  by_cases h : key = entry.1
  · simp [h]
  · rw [if_neg h, beq_eq_false_iff_ne.2 h]

end Table

/-- How a name that is local to its script may begin, in any letter case. -/
def scriptMark : Text := "<sid>".toList

/-- The name under which a definition is found. -/
def key? (name : Text) : Option Text :=
  -- dictionary members and computed names are not found at all
  if name.any fun c => c = '.' || c = '[' || c = '\x7b' then none
  else if (name.take scriptMark.length).map Char.toLower = scriptMark then
    some ("s:".toList ++ name.drop scriptMark.length)
  else some name

/-- A reading of a source that has come to the end of some line. -/
structure Scan where
  table : Table
  /-- Written names and lines of the open definitions, the innermost first. -/
  opened : List (Text × Nat)
  deriving DecidableEq, Repr

namespace Scan

def start : Scan := ⟨[], []⟩

def step (s : Scan) (number : Nat) (line : Text) : Except IndexError Scan :=
  match LineKind.classify line with
  | .definition name =>
    -- a definition without a key still has to be closed
    let table := match key? name with
      | some key => s.table.insert key number
      | none => s.table
    .ok ⟨table, (name, number) :: s.opened⟩
  | .closing =>
    match s.opened with
    | [] => .error (.unmatchedEnd number)
    | _ :: opened => .ok ⟨s.table, opened⟩
  | .other => .ok s

def run (s : Scan) (number : Nat) : List Text → Except IndexError Scan
  | [] => .ok s
  | line :: rest =>
    match s.step number line with
    | .error e => .error e
    | .ok next => next.run (number + 1) rest

def stepLog (number : Nat) (line : Text) : List Log.Record :=
  match LineKind.classify line with
  | .definition name =>
    match key? name with
    | some key =>
      [⟨.trace, .definitions,
        "indexed function ".toList ++ key ++ " at line ".toList ++ decimal number⟩]
    | none => []
  | _ => []

def runLog (s : Scan) (number : Nat) : List Text → List Log.Record
  | [] => []
  | line :: rest =>
    match s.step number line with
    | .error _ => []
    | .ok next => stepLog number line ++ next.runLog (number + 1) rest

def close (s : Scan) : Except IndexError Table :=
  match s.opened with
  | [] => .ok s.table
  | (name, line) :: _ => .error (.unterminated name line)

end Scan

def index (source : Text) : Except IndexError Table :=
  match Scan.start.run 1 (lines source) with
  | .error e => .error e
  | .ok s => s.close

def indexLog (source : Text) : List Log.Record :=
  Scan.start.runLog 1 (lines source)

end Source
end ScriptTrace
