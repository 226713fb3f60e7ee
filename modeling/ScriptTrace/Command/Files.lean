import ScriptTrace.Command.Run

/-! The files that a command reads.
They are known from its arguments, and from the throwpoints that it builds. -/
namespace ScriptTrace.Command
open Text

def fileOfThrowpoint? (throwpoint : Text) : Option Text :=
  match Throwpoint.parse? (Throwpoint.normalize throwpoint) with
  | some (.file link) => some link.body
  | _ => none

def fileOfRequest? (line : Text) : Option Text :=
  match Message.parse? line with
  | none => none
  | some message =>
    match Request.ofJson message.body with
    | .ok (.build throwpoint) => fileOfThrowpoint? throwpoint
    | _ => none

def Task.namedFiles : Task → List Text
  | .errors (some file) _ _ => [file]
  | .index file => [file]
  | _ => []

/-- The files that the throwpoints of a command lead to, once the named files are known. -/
def Task.tracedFiles (w : Surroundings) : Task → List Text
  | .build throwpoint _ => (fileOfThrowpoint? throwpoint).toList
  | .errors file _ true =>
    match w.history file with
    | .ok history => (History.extract history).filterMap fun r => fileOfThrowpoint? r.throwpoint
    | .error _ => []
  | _ => []

end ScriptTrace.Command
