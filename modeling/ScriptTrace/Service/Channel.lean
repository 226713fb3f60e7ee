import ScriptTrace.Json.Reader
import ScriptTrace.Json.Writer
import ScriptTrace.Service.Request
import ScriptTrace.Session.Requests
import ScriptTrace.Trace.Wire

/-! Answers to the messages of the editor's channel.
A message is an array of a number and a request, and the answer has the same number. -/
namespace ScriptTrace
open Text

/-- The answer to a request that failed. -/
structure ErrorResponse where
  error : Text
  deriving DecidableEq, Repr

namespace ErrorResponse
open Json

def toJson (r : ErrorResponse) : Json :=
  .object [("error".toList, .string r.error)]

def shape : Shape ErrorResponse where
  name := "ErrorResponse".toList
  members := [⟨"error".toList, fun v _ => do return ⟨← v.toText⟩⟩]
  lenient := false
  draft := ⟨[]⟩

def ofJson (v : Json) : Except DecodeError ErrorResponse :=
  shape.decode v

end ErrorResponse

/-- A message of the channel. -/
structure Message where
  /-- The number, above zero where an answer is wanted. -/
  number : Int
  body : Json

namespace Message

def numberLimit : Int := .ofNat (Nat.pow 2 63)

def parse? (line : Text) : Option Message :=
  match Json.read? line with
  | some (.array [.whole number, body]) =>
    if number < numberLimit then some ⟨number, body⟩ else none
  | _ => none

end Message

namespace Session

def dispatch (s : Session) : Request → Action (Except RequestError Json)
  | .callstack => do return (← s.callstack).map Stacktrace.toJson
  | .build throwpoint => do return (← s.build throwpoint).map Stacktrace.toJson
  | .errors history => do
    return (← s.errors history).map fun rs => .array (rs.map History.ErrorRecord.toJson)
  | .fromHistory => do
    return (← s.fromHistory).map fun trace => trace.elim .null Stacktrace.toJson

def perform (s : Session) (body : Json) : Action (Except RequestError Json) := do
  match Request.ofJson body with
  | .error e => return .error (.invalidRequest e)
  | .ok request =>
    Action.note .debug .service ("dispatching ".toList ++ request.describe)
    s.dispatch request

/-- The answer to a request, which tells of the failure where there is one. -/
def handle (s : Session) (body : Json) : Action Json := do
  match ← s.perform body with
  | .ok value => return value
  | .error e =>
    Action.note .debug .service ("request failed: ".toList ++ e.message)
    return (ErrorResponse.mk e.message).toJson

/-- The answer to a line of the channel, if it has one. -/
def respond (s : Session) (line : Text) : Action (Option Text) := do
  match Message.parse? line with
  | none =>
    Action.note .warn .service "dropping malformed channel message: *".toList
    return none
  | some message =>
    if message.number ≤ 0 then return none
    else
      let value ← s.handle message.body
      return some (Json.array [.whole message.number, value]).write

/-- The answers to the lines of the channel, in order. Blank lines are passed over. -/
def serve (s : Session) : List Text → Action (List Text)
  | [] => return []
  | line :: rest => do
    let answer ← if trim line = [] then pure none else s.respond line
    let answers ← s.serve rest
    return answer.toList ++ answers

end Session
end ScriptTrace
