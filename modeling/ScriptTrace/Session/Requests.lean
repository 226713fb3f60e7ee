import ScriptTrace.History.Choice
import ScriptTrace.Session.Builder

/-! What a client can ask of a session.
Requests that need the message history take it from the editor unless they bring their own. -/
namespace ScriptTrace.Session
open Text

def evaluate (s : Session) (expression : Text) : Action (Except QueryError Text) :=
  Action.ask (.evaluate expression) (s.host.evaluate expression)

/-- The stacktrace of the caller of the script that is being run. -/
def callstack (s : Session) : Action (Except RequestError Stacktrace) := do
  match ← s.evaluate Host.chainExpression with
  | .error e => return .error (.query e)
  | .ok chain => s.buildCanonical (Throwpoint.callerChain chain)

def extract (history : Text) : Action (List History.ErrorRecord) := do
  Action.notes (History.extractLog history)
  return History.extract history

def errors (s : Session) (history : Option Text) :
    Action (Except RequestError (List History.ErrorRecord)) := do
  match history with
  | some history => return .ok (← extract history)
  | none =>
    match ← s.evaluate Host.historyExpression with
    | .error e => return .error (.query e)
    | .ok history => return .ok (← extract history)

def chosen (records : List History.ErrorRecord) (number : Int) :
    Except RequestError (Option History.ErrorRecord) :=
  if number = 0 then .ok none
  else if 1 ≤ number ∧ number ≤ records.length then .ok records[number.toNat - 1]?
  else .error (.invalidSelection number records.length)

/-- Lets a chooser pick one error of a history. -/
def selectWith (chooser : Option Chooser) (history : Text) :
    Action (Except RequestError (Option History.ErrorRecord)) := do
  match ← extract history with
  | [] => return .ok none
  | [r] => return .ok (some r)
  | records =>
    match chooser with
    | none => return .ok none
    | some choose =>
      let shown := History.candidates records
      match ← Action.ask (.choose shown) (choose shown) with
      | .error e => return .error (.query e)
      | .ok number => return chosen records number

def selectError (s : Session) (history : Text) :
    Action (Except RequestError (Option History.ErrorRecord)) :=
  selectWith s.chooser history

/-- The stacktrace with the messages of a record in front of the innermost text. -/
def annotate (r : History.ErrorRecord) (trace : Stacktrace) : Stacktrace :=
  trace.modifyLast fun f => { f with text := r.summary ++ " : ".toList ++ f.text }

/-- The stacktrace of an error picked from the editor's history. -/
def fromHistory (s : Session) : Action (Except RequestError (Option Stacktrace)) := do
  match ← s.evaluate Host.historyExpression with
  | .error e => return .error (.query e)
  | .ok history =>
    match ← s.selectError history with
    | .error e => return .error e
    | .ok none => return .ok none
    | .ok (some r) =>
      match ← s.build r.throwpoint with
      | .error e => return .error e
      | .ok trace => return .ok (some (annotate r trace))

def buildOffline (read : FileReader) (throwpoint : Text) : Except RequestError Stacktrace :=
  ((Session.offline read none).build throwpoint .empty).value

end ScriptTrace.Session
