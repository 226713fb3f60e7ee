import ScriptTrace.Disk.Tree
import ScriptTrace.Fixture.Check

/-! The run of a suite of fixtures.
Every file has a verdict of its own, and the summary counts them. -/
namespace ScriptTrace.Fixture
open Text

def fixtureExtension : Text := "msghist".toList

/-- The paths of fixtures at and below a root, in the order of their names. -/
def collect (disk : Disk) (root : Text) : List Text :=
  (disk.walk root).filter fun path => Path.extension? path = some fixtureExtension

def judge (read : FileReader) (path : Text) : Verdict :=
  match read.text path with
  | .error e => .skipped ("failed to read fixture: ".toList ++ e.message)
  | .ok source =>
    match Metadata.parse? source with
    | none => .skipped "no front matter".toList
    -- nothing that a check does can break off, so there is no verdict for one that did
    | some expectation => check read expectation (body source)

/-- What comes of a suite. -/
structure Summary where
  passed : Nat
  failed : Nat
  skipped : Nat
  /-- Paths of the fixtures that failed, with the reasons. -/
  failures : List (Text × Text)
  deriving DecidableEq, Repr

namespace Summary

def empty : Summary := ⟨0, 0, 0, []⟩

def add (s : Summary) (path : Text) : Verdict → Summary
  | .passed => { s with passed := s.passed + 1 }
  | .failed reason =>
    { s with failed := s.failed + 1, failures := s.failures ++ [(path, reason)] }
  | .skipped _ => { s with skipped := s.skipped + 1 }

end Summary

def runSuite (read : FileReader) (paths : List Text) : Summary :=
  paths.foldl (fun s path => s.add path (judge read path)) .empty

end ScriptTrace.Fixture
