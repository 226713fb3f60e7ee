import ScriptTrace.History.Extractor

/-! The choice of one error record.
Records are shown with numbers from one, and the number zero chooses none. -/
namespace ScriptTrace.History
open Text

def candidate (number : Nat) (r : ErrorRecord) : Text :=
  decimal number ++ ". ".toList ++ r.throwpoint ++ ": ".toList ++ r.summary

def candidates (records : List ErrorRecord) : List Text :=
  records.mapIdx fun i r => candidate (i + 1) r

end ScriptTrace.History
