import ScriptTrace.Json.Decode
import ScriptTrace.Text.Quoted

/-! The requests of the editor's channel.
A request is an object with an id that names it, or an array that begins with the id. -/
namespace ScriptTrace
open Text

/-- What a client asks for. -/
inductive Request where
  | callstack
  | build (throwpoint : Text)
  | errors (history : Option Text)
  | fromHistory
  deriving DecidableEq, Repr

namespace Request
open Json

def callstackId : Text := "stacktrace#callstack".toList

def buildId : Text := "stacktrace#build".toList

def errorsId : Text := "stacktrace#histerrs".toList

def fromHistoryId : Text := "stacktrace#fromhist".toList

def idKey : Text := "id".toList

def throwpointKey : Text := "throwpoint".toList

def historyKey : Text := "msghist".toList

/-- The arguments of a request: members of an object, or the items behind the id. -/
inductive Arguments where
  | named (members : List (Text × Json))
  | listed (items : List Json)

def toHistory : Json → Except DecodeError (Option Text)
  | null => .ok none
  | v => v.toText.map some

/-- Refuses items beyond the `most` that a request takes. -/
def refuseMore (most : Nat) (items : List Json) : Except DecodeError Unit :=
  if most < items.length then
    .error (.wrongLength items.length (DecodeError.counted most "element".toList ++ " in sequence".toList))
  else .ok ()

def decodeThrowpoint : Arguments → Except DecodeError Text
  | .named members =>
    match members.lookup throwpointKey with
    | some v => v.toText
    | none => .error (.missing throwpointKey)
  | .listed [] =>
    .error (.wrongLength 0 "struct variant Request::Build with 1 element".toList)
  | .listed (v :: rest) => do
    let throwpoint ← v.toText
    refuseMore 1 (v :: rest)
    return throwpoint

def decodeHistory : Arguments → Except DecodeError (Option Text)
  | .named members => ((members.lookup historyKey).map toHistory).getD (.ok none)
  | .listed [] => .ok none
  | .listed (v :: rest) => do
    let history ← toHistory v
    refuseMore 1 (v :: rest)
    return history

/-- Refuses the items of a request without arguments. Members mean nothing to it. -/
def refuseArguments : Arguments → Except DecodeError Unit
  | .named _ => .ok ()
  | .listed items => refuseMore 0 items

def decodeVariant (id : Text) (arguments : Arguments) : Except DecodeError Request :=
  if id = callstackId then do
    refuseArguments arguments
    return callstack
  else if id = buildId then do
    return build (← decodeThrowpoint arguments)
  else if id = errorsId then do
    return errors (← decodeHistory arguments)
  else if id = fromHistoryId then do
    refuseArguments arguments
    return fromHistory
  else .error (.unknownVariant id [callstackId, buildId, errorsId, fromHistoryId])

def toId : Json → Except DecodeError Text
  | string s => .ok s
  | v => .error (.wrongType v "variant identifier".toList)

def ofJson : Json → Except DecodeError Request
  | object members =>
    match members.lookup idKey with
    | none => .error (.missing idKey)
    | some v => do decodeVariant (← toId v) (.named members)
  | array [] => .error (.missing idKey)
  | array (v :: rest) => do decodeVariant (← toId v) (.listed rest)
  | v => .error (.wrongType v "internally tagged enum Request".toList)

def describe : Request → Text
  | callstack => "Callstack".toList
  | build throwpoint =>
    "Build \x7b throwpoint: ".toList ++ quoted throwpoint ++ " \x7d".toList
  | errors none => "Histerrs \x7b msghist: None \x7d".toList
  | errors (some history) =>
    "Histerrs \x7b msghist: Some(".toList ++ quoted history ++ ") \x7d".toList
  | fromHistory => "Fromhist".toList

end Request
end ScriptTrace
