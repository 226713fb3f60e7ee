import ScriptTrace.Proofs.Session.Oblivious
import ScriptTrace.Service.Channel

/-! The answers of a session, which do not depend on what was asked of it before.
Whatever the cache holds after a run of requests, lookups and resets, the next answer is that of a
session just built. -/
namespace ScriptTrace.Session
open ScriptTrace.Action

/-- What a client may ask of a session. -/
inductive Query where
  | callstack
  | build (throwpoint : Text)
  | buildCanonical (chain : Text)
  | errors (history : Option Text)
  | selectError (history : Text)
  | fromHistory
  /-- A request of the channel, without the message around it. -/
  | handle (body : Json)
  /-- A line of the channel. -/
  | respond (line : Text)

/-- What a session answers. -/
inductive Answer where
  | stacktrace (result : Except RequestError Stacktrace)
  | records (result : Except RequestError (List History.ErrorRecord))
  | record (result : Except RequestError (Option History.ErrorRecord))
  | picked (result : Except RequestError (Option Stacktrace))
  | json (value : Json)
  | line (text : Option Text)

def answer (s : Session) : Query → Action Answer
  | .callstack => do return .stacktrace (← s.callstack)
  | .build throwpoint => do return .stacktrace (← s.build throwpoint)
  | .buildCanonical chain => do return .stacktrace (← s.buildCanonical chain)
  | .errors history => do return .records (← s.errors history)
  | .selectError history => do return .record (← s.selectError history)
  | .fromHistory => do return .picked (← s.fromHistory)
  | .handle body => do return .json (← s.handle body)
  | .respond line => do return .line (← s.respond line)

/-- What may be done with a session: a query, or something with its cache alone. -/
inductive Operation where
  | query (q : Query)
  | lookup (path : Text)
  | definitionLine (name path : Text)
  | reset

def carryOut (s : Session) : Operation → Action (Option Answer)
  | .query q => do return some (← s.answer q)
  | .lookup path => do
    let _ ← Action.lookup s.indexer path
    return none
  | .definitionLine name path => do
    let _ ← Action.definitionLine s.indexer name path
    return none
  | .reset => do
    Action.reset
    return none

variable (s : Session)

private theorem oblivious_evaluate (expression : Text) : Oblivious (s.evaluate expression) :=
  oblivious_ask _ _

private theorem oblivious_callstack : Oblivious s.callstack := by
  refine (s.oblivious_evaluate _).bind fun result => ?_
  cases result with
  | error e => exact oblivious_pure _
  | ok chain => exact s.oblivious_buildCanonical _

private theorem oblivious_extract (history : Text) : Oblivious (extract history) :=
  (oblivious_notes _).bind fun _ => oblivious_pure _

private theorem oblivious_errors (history : Option Text) : Oblivious (s.errors history) := by
  cases history with
  | some history => exact (oblivious_extract history).map _
  | none =>
    refine (s.oblivious_evaluate _).bind fun result => ?_
    cases result with
    | error e => exact oblivious_pure _
    | ok history => exact (oblivious_extract history).map _

private theorem oblivious_selectWith (chooser : Option Chooser) (history : Text) :
    Oblivious (selectWith chooser history) := by
  refine (oblivious_extract history).bind fun records => ?_
  split
  · exact oblivious_pure _
  · exact oblivious_pure _
  · cases chooser with
    | none => exact oblivious_pure _
    | some choose =>
      refine (oblivious_ask _ _).bind fun result => ?_
      cases result with
      | error e => exact oblivious_pure _
      | ok number => exact oblivious_pure _

private theorem oblivious_fromHistory : Oblivious s.fromHistory := by
  refine (s.oblivious_evaluate _).bind fun result => ?_
  cases result with
  | error e => exact oblivious_pure _
  | ok history =>
    refine (oblivious_selectWith s.chooser history).bind fun selected => ?_
    match selected with
    | .error e => exact oblivious_pure _
    | .ok none => exact oblivious_pure _
    | .ok (some r) =>
      refine (s.oblivious_build r.throwpoint).bind fun built => ?_
      cases built with
      | error e => exact oblivious_pure _
      | ok trace => exact oblivious_pure _

/-- Every request is carried out alike from every cache. -/
theorem oblivious_dispatch (request : Request) : Oblivious (s.dispatch request) := by
  cases request with
  | callstack => exact s.oblivious_callstack.map _
  | build throwpoint => exact (s.oblivious_build throwpoint).map _
  | errors history => exact (s.oblivious_errors history).map _
  | fromHistory => exact s.oblivious_fromHistory.map _

private theorem oblivious_perform (body : Json) : Oblivious (s.perform body) := by
  unfold perform
  cases Request.ofJson body with
  | error e => exact oblivious_pure _
  | ok request => exact (oblivious_note _ _ _).bind fun _ => s.oblivious_dispatch request

/-- Every request is answered alike from every cache, a refused one included. -/
theorem oblivious_handle (body : Json) : Oblivious (s.handle body) := by
  refine (s.oblivious_perform body).bind fun result => ?_
  cases result with
  | error e => exact (oblivious_note _ _ _).bind fun _ => oblivious_pure _
  | ok value => exact oblivious_pure _

private theorem oblivious_respond (line : Text) : Oblivious (s.respond line) := by
  unfold respond
  cases Message.parse? line with
  | none => exact (oblivious_note _ _ _).bind fun _ => oblivious_pure _
  | some message =>
    dsimp only
    split
    · exact oblivious_pure _
    · exact (s.oblivious_handle message.body).map _

/-- The answer to a query, and the calls and log records on the way to it, are the same from every
cache. -/
theorem oblivious_answer (q : Query) : Oblivious (s.answer q) := by
  cases q with
  | callstack => exact s.oblivious_callstack.map _
  | build throwpoint => exact (s.oblivious_build throwpoint).map _
  | buildCanonical chain => exact (s.oblivious_buildCanonical chain).map _
  | errors history => exact (s.oblivious_errors history).map _
  | selectError history => exact (oblivious_selectWith s.chooser history).map _
  | fromHistory => exact s.oblivious_fromHistory.map _
  | handle body => exact (s.oblivious_handle body).map _
  | respond line => exact (s.oblivious_respond line).map _

/-- What an operation gives does not depend on the cache before it. -/
theorem carryOut_value_eq (op : Operation) (cache cache' : Cache) :
    ((s.carryOut op).run cache).value = ((s.carryOut op).run cache').value := by
  cases op with
  | query q => exact ((s.oblivious_answer q).map some cache cache').1
  | lookup path => rfl
  | definitionLine name path => rfl
  | reset => rfl

/-- In every run of operations, each query is answered as by a session just built of which nothing
else is asked. -/
theorem answers_eq_alone (ops : List Operation) (cache : Cache) :
    ((forEach s.carryOut ops).run cache).value =
      ops.map fun op => ((s.carryOut op).run .empty).value :=
  forEach_value (fun op _ => s.carryOut_value_eq op) cache .empty

end ScriptTrace.Session
