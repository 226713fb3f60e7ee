import ScriptTrace.Dump
import ScriptTrace.Name
import ScriptTrace.Session.Host
import ScriptTrace.Throwpoint.Normal
import ScriptTrace.Trace.Frame

/-! The building of stacktraces.
Each link becomes one frame, and what cannot be found out for it leaves the other frames alone. -/
namespace ScriptTrace.Session
open Text

/-- The line in a file of a line in a function, zero when the definition is not found. -/
def absoluteLine (s : Session) (funcname file : Text) (flnum : Nat) : Action Nat := do
  let definition ← Action.definitionLine s.indexer (Name.source funcname) file
  if definition = 0 then
    Action.note .debug .builder (funcname ++ " not found in ".toList ++ file)
    return 0
  else
    -- a sum that is no word any more begins again at zero
    return (definition + flnum) % wordLimit

def functionFrame (s : Session) (link : Link) : Action Frame := do
  let funcname := Name.display link.body
  let frame := Frame.ofFunction funcname link.line
  match ← Action.ask (.describe funcname) (s.host.describe funcname) with
  | .error e =>
    Action.note .debug .builder
      ("no function dump for ".toList ++ funcname ++ ": ".toList ++ e.message)
    return frame
  | .ok listing =>
    let dump := Dump.parse s.home listing
    let line := (dump.lineText? link.line).getD []
    let frame := { frame with line, text := frame.text ++ line }
    match dump.sourceFile with
    | none => return frame
    | some file =>
      let lnum ← s.absoluteLine funcname file link.line
      return { frame with filename := file, lnum }

def fileLine (bytes : Utf8.Bytes) (number : Nat) : Text :=
  if number = 0 then [] else ((lines (Utf8.decodeLossy bytes))[number - 1]?).getD []

def fileFrame (s : Session) (link : Link) : Action Frame := do
  let frame := Frame.ofFile link.body link.line
  match ← Action.read link.body (s.host.read link.body) with
  | .error e =>
    Action.note .debug .builder
      ("could not read ".toList ++ link.body ++ ": ".toList ++ e.message)
    return frame
  | .ok bytes =>
    let line := fileLine bytes link.line
    return { frame with line, text := line }

/-- The stacktrace of a throwpoint in canonical form. -/
def buildCanonical (s : Session) (chain : Text) : Action (Except RequestError Stacktrace) := do
  match Throwpoint.parse? chain with
  | none => return .error (.invalidThrowpoint chain)
  | some (.function links) =>
    -- the cache serves one chain only
    Action.reset
    return .ok ⟨← Action.forEach s.functionFrame links⟩
  | some (.file link) =>
    return .ok ⟨[← s.fileFrame link]⟩

/-- The stacktrace of a throwpoint in any shape. -/
def build (s : Session) (throwpoint : Text) : Action (Except RequestError Stacktrace) :=
  s.buildCanonical (Throwpoint.normalize throwpoint)

end ScriptTrace.Session
