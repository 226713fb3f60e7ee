import ScriptTrace.Log
import ScriptTrace.Text.Blank
import ScriptTrace.Text.Digits

/-! The setting of the log.
A small number sets the least weighty level that the log takes, and anything else turns it off. -/
namespace ScriptTrace.Log
open Text

/-- The least weighty level that a setting lets into the log. -/
def Level.ofSetting? (setting : Text) : Option Level :=
  match unsigned? 256 (trim setting) with
  | some 1 => some .warn
  | some 2 => some .info
  | some 3 => some .debug
  | some 4 => some .trace
  | _ => none

def upTo (level : Level) (records : List Record) : List Record :=
  records.filter fun r => r.level.rank ≤ level.rank

end ScriptTrace.Log
