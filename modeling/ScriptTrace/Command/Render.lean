import ScriptTrace.Command.Paint
import ScriptTrace.History.Extractor
import ScriptTrace.Source.Index
import ScriptTrace.Trace.Frame

/-! How results are shown on a terminal.
Every function gives whole lines. -/
namespace ScriptTrace.Command
open Text

def renderLocation (f : Frame) : Text :=
  if f.filename = [] then grey "<unknown>".toList
  else cyan f.filename ++ [':'] ++ decimal f.lnum

def renderTrace (s : Stacktrace) : Text :=
  s.frames.flatMap fun f => asLine (renderLocation f ++ ": ".toList ++ f.text)

def renderMessages (messages : List Text) : Text :=
  messages.flatMap fun m => asLine (red m)

def renderRecord (number : Nat) (r : History.ErrorRecord) : Text :=
  asLine (grey (decimal number ++ ['.']) ++ [' '] ++ yellow r.throwpoint) ++
    r.messages.flatMap fun m => asLine ("    ".toList ++ red m)

def renderRecords (records : List History.ErrorRecord) : Text :=
  if records = [] then asLine (grey "no errors in message history".toList)
  else (records.mapIdx fun i r => renderRecord (i + 1) r).flatten

/-- A line for each name, with the line number in five columns, in the order of the numbers. -/
def renderTable (table : Source.Table) : Text :=
  (Source.Table.listing table).flatMap fun (name, line) =>
    let digits := decimal line
    asLine (grey (List.replicate (5 - digits.length) ' ' ++ digits) ++ [' '] ++ name)

def renderError (message : Text) : Text :=
  asLine (bold (red "error:".toList) ++ [' '] ++ message)

end ScriptTrace.Command
