import ScriptTrace.Json.Decode
import ScriptTrace.Text.Quoted

/-! Why a request fails.
A query to the editor fails for a reason of the editor, a request for one of its own or that one. -/
namespace ScriptTrace
open Text

/-- Failure of a query to the editor, with the call that was made. -/
inductive QueryError where
  | failed (call message : Text)
  | notString (call value : Text)
  | notNumber (call value : Text)
  | unavailable (call : Text)
  deriving DecidableEq, Repr

namespace QueryError

def message : QueryError → Text
  | failed call message => call ++ " failed: ".toList ++ message
  | notString call value => call ++ " is not string: ".toList ++ value
  | notNumber call value => call ++ " is not number: ".toList ++ value
  | unavailable call => call ++ ": no runtime attached".toList

def help? : QueryError → Option Text
  | unavailable _ => some "offline mode only resolves what the throwpoint itself carries".toList
  | _ => none

end QueryError

/-- Failure of a request. -/
inductive RequestError where
  | invalidThrowpoint (throwpoint : Text)
  | invalidSelection (number : Int) (count : Nat)
  | query (cause : QueryError)
  | invalidRequest (cause : DecodeError)

namespace RequestError

def message : RequestError → Text
  | invalidThrowpoint throwpoint => "invalid throwpoint: ".toList ++ quoted throwpoint
  | invalidSelection number count =>
    "selected invalid number: ".toList ++ signedDecimal number ++ " (there are ".toList ++
      decimal count ++ " candidates)".toList
  | query cause => cause.message
  | invalidRequest cause => "invalid request: ".toList ++ cause.message

def help? : RequestError → Option Text
  | invalidThrowpoint _ =>
    some "expected `function Name[line]..Name[line]` or `/path/to/file.vim[line]`".toList
  | query cause => cause.help?
  | _ => none

end RequestError
end ScriptTrace
