import ScriptTrace.Fixture.FrontMatter
import ScriptTrace.Session.Requests

/-! The check of a fixture.
The history must have the expected records, and their throwpoints must build where that is asked
for. -/
namespace ScriptTrace.Fixture
open Text History

/-- How a history differs from what is expected of it. -/
inductive Difference where
  | count (expected extracted : Nat)
  | record (number : Nat) (extracted expected : ErrorRecord)
  | unbuildable (throwpoint : Text) (cause : RequestError)

def showRecord (r : ErrorRecord) : Text :=
  "ErrorRecord \x7b throwpoint: ".toList ++ quoted r.throwpoint ++ ", messages: [".toList ++
    join ", ".toList (r.messages.map quoted) ++ "] \x7d".toList

namespace Difference

def message : Difference → Text
  | count expected extracted =>
    "expected ".toList ++ decimal expected ++ " records, extracted ".toList ++ decimal extracted
  | record number extracted expected =>
    "record ".toList ++ decimal number ++ ": got ".toList ++ showRecord extracted ++
      ", want ".toList ++ showRecord expected
  | unbuildable throwpoint cause => throwpoint ++ ": ".toList ++ cause.message

end Difference

/-- The first two records of one number that differ, the first of which has this number. -/
def firstDifference? (number : Nat) : List ErrorRecord → List ErrorRecord → Option Difference
  | extracted :: more, expected :: others =>
    if extracted = expected then firstDifference? (number + 1) more others
    else some (.record number extracted expected)
  | _, _ => none

def firstUnbuildable? (read : FileReader) : List ErrorRecord → Option Difference
  | [] => none
  | r :: rest =>
    match Session.buildOffline read r.throwpoint with
    | .error e => some (.unbuildable r.throwpoint e)
    | .ok _ => firstUnbuildable? read rest

/-- The first difference of a history from what is expected: in the number of records, in a
record, or in what can be built. -/
def difference? (read : FileReader) (expectation : Metadata) (history : Text) : Option Difference :=
  let records := extract history
  if records.length ≠ expectation.expected.length then
    some (.count expectation.expected.length records.length)
  else
    match firstDifference? 1 records expectation.expected with
    | some d => some d
    | none => if expectation.build then firstUnbuildable? read records else none

/-- What comes of a fixture. -/
inductive Verdict where
  | passed
  | failed (reason : Text)
  /-- It could not be checked. -/
  | skipped (reason : Text)
  deriving DecidableEq, Repr

/-- Checks a history. The reason of a failure begins with the description. -/
def check (read : FileReader) (expectation : Metadata) (history : Text) : Verdict :=
  match difference? read expectation history with
  | none => .passed
  | some d =>
    match expectation.description with
    | some description => .failed (description ++ ": ".toList ++ d.message)
    | none => .failed d.message

end ScriptTrace.Fixture
