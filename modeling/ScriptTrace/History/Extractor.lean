import ScriptTrace.History.State
import ScriptTrace.Log
import ScriptTrace.Text.Lines
import ScriptTrace.Text.Quoted

/-! The extraction of error records from a message history.
Lines are fed one by one, and a block that breaks off is dropped without touching the others. -/
namespace ScriptTrace.History
open Text

/-- One error event of the history. -/
structure ErrorRecord where
  /-- Where it was thrown, in canonical form. -/
  throwpoint : Text
  /-- Its messages, each with its error code. -/
  messages : List Text
  deriving DecidableEq, Repr

namespace ErrorRecord

def empty : ErrorRecord := ⟨[], []⟩

def summary (r : ErrorRecord) : Text :=
  join ", ".toList r.messages

end ErrorRecord

/-- A reading of the history that has come to the end of some line. -/
structure Extractor where
  state : State
  pending : ErrorRecord
  /-- The complete records in order of appearance. -/
  records : List ErrorRecord
  deriving DecidableEq, Repr

namespace Extractor

def start : Extractor := ⟨.outside, .empty, []⟩

def apply (e : Extractor) : Effect → Extractor
  | .keep => e
  | .discard => { e with pending := .empty }
  | .locate throwpoint => { e with pending := { e.pending with throwpoint } }
  | .append message =>
    { e with pending := { e.pending with messages := e.pending.messages ++ [message] } }
  | .push => { e with pending := .empty, records := e.records ++ [e.pending] }
  -- another line number in the same block begins another record
  | .pushThen throwpoint =>
    { e with pending := ⟨throwpoint, []⟩, records := e.records ++ [e.pending] }

/-- Reads one line, which may end in a carriage return. -/
def feed (e : Extractor) (line : Text) : Extractor :=
  let step := transition e.state (dropReturn line)
  { e.apply step.2 with state := step.1 }

/-- What the log tells of a line: only that it made a record break off. -/
def feedLog (e : Extractor) (line : Text) : List Log.Record :=
  match (transition e.state (dropReturn line)).2 with
  | .discard =>
    [⟨.trace, .history,
      "discarding partial error record at ".toList ++ quoted (dropReturn line)⟩]
  | _ => []

def feedAll (e : Extractor) (ls : List Text) : Extractor :=
  ls.foldl feed e

def feedAllLog : Extractor → List Text → List Log.Record
  | _, [] => []
  | e, line :: rest => e.feedLog line ++ (e.feed line).feedAllLog rest

def finish (e : Extractor) : List ErrorRecord :=
  (e.feed []).records

end Extractor

/-- All error records of a message history, in order of appearance. -/
def extract (history : Text) : List ErrorRecord :=
  (Extractor.start.feedAll (history.splitOn '\n')).finish

def extractLog (history : Text) : List Log.Record :=
  Extractor.start.feedAllLog (history.splitOn '\n' ++ [[]])

end ScriptTrace.History
