import Mathlib.Logic.Basic
import ScriptTrace.Fixture.Check

/-! The verdict on a fixture.
It tells of the first difference between a history and what is expected of it, and a fixture passes
when there is none. -/
namespace ScriptTrace.Fixture
open Text History

section First
variable {number : Nat} {records others : List ErrorRecord} {d : Difference}

variable {read : FileReader}

end First

section Check
variable {read : FileReader} {expectation : Metadata} {history : Text} {d : Difference}

def described : Option Text → Text → Text
  | some description, reason => description ++ ": ".toList ++ reason
  | none, reason => reason

theorem check_eq (read : FileReader) (expectation : Metadata) (history : Text) :
    check read expectation history =
      match difference? read expectation history with
      | none => .passed
      | some d => .failed (described expectation.description d.message) := by
  rw [check]
  cases difference? read expectation history with
  | none => rfl
  | some d => cases expectation.description <;> rfl

end Check

example :
    check (fun _ => .error .notFound)
      ⟨some "odd name".toList, [⟨"a, line 3.vim[5]".toList, ["E1: x".toList]⟩], true⟩
      "Error detected while processing a, line 3.vim:\nline 5:\nE1: x".toList =
      .failed
        "odd name: a, line 3.vim[5]: invalid throwpoint: \"a[3.vim[5]]\"".toList := by
  decide +kernel

end ScriptTrace.Fixture
