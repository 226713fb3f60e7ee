import ScriptTrace.Command.Arguments
import ScriptTrace.Command.Prompt
import ScriptTrace.Command.Render
import ScriptTrace.Service.Channel

/-! The commands of the command line.
A command reads files and the standard input, and reports what is to be written where. -/
namespace ScriptTrace.Command
open Text

/-- What comes of a command. -/
structure Report where
  code : Nat
  output : Text
  errors : Text
  log : List Log.Record
  deriving DecidableEq, Repr

namespace Report

def success (output : Text) (log : List Log.Record) : Report := ⟨0, output, [], log⟩

def failure (message : Text) (log : List Log.Record) : Report := ⟨1, [], renderError message, log⟩

def usage : Text :=
  "usage: vimstack build THROWPOINT [--json]
       vimstack histerrs [FILE] [--json] [--select]
       vimstack index FILE
       vimstack serve
       vimstack --version\n".toList

def misuse : Report := ⟨2, [], usage, []⟩

def help : Report := ⟨0, usage, [], []⟩

def version : Report := ⟨0, asLine "vimstack 0.1.0".toList, [], []⟩

end Report

/-- What a command works on: the files, the standard input, and the home directory. -/
structure Surroundings where
  read : FileReader
  input : Utf8.Bytes
  home : Option Text

namespace Surroundings

def session (w : Surroundings) : Session := Session.offline w.read w.home

def history (w : Surroundings) : Option Text → Except FileError Text
  | some file => w.read.text file
  | none =>
    match Utf8.decode? w.input with
    | some s => .ok s
    | none => .error .notText

/-- The lines that are left to a prompt after the message history. -/
def promptLines (w : Surroundings) : Option Text → List (Option Text)
  | some _ => inputLines w.input
  | none => []

end Surroundings

def showTrace (json : Bool) (s : Stacktrace) : Text :=
  if json then asLine (s.toDeclared.pretty 0) else renderTrace s

def showRecords (json : Bool) (records : List History.ErrorRecord) : Text :=
  if json then asLine ((Json.array (records.map History.ErrorRecord.toDeclared)).pretty 0)
  else renderRecords records

def runBuild (w : Surroundings) (throwpoint : Text) (json : Bool) : Report :=
  let outcome := w.session.build throwpoint .empty
  match outcome.value with
  | .error e => .failure e.message (Event.records outcome.events)
  | .ok trace => .success (showTrace json trace) (Event.records outcome.events)

def promptShown (input : List (Option Text)) (events : List Event) : Text :=
  (Event.calls events).flatMap fun
    | .choose candidates => (Prompt.run input candidates).shown
    | _ => []

def runSelect (w : Surroundings) (history : Text) (input : List (Option Text)) (json : Bool) :
    Report :=
  let chooser : Chooser := fun candidates => (Prompt.run input candidates).answer
  let choice := Session.selectWith (some chooser) history .empty
  let shown := promptShown input choice.events
  let log := Event.records choice.events
  match choice.value with
  | .error e => ⟨1, [], shown ++ renderError e.message, log⟩
  | .ok none => ⟨0, [], shown ++ asLine (grey "nothing selected".toList), log⟩
  | .ok (some r) =>
    let outcome := w.session.build r.throwpoint choice.cache
    let log := log ++ Event.records outcome.events
    match outcome.value with
    | .error e => ⟨1, [], shown ++ renderError e.message, log⟩
    | .ok trace =>
      ⟨0, (if json then [] else renderMessages r.messages) ++ showTrace json trace, shown, log⟩

def runErrors (w : Surroundings) (file : Option Text) (json select : Bool) : Report :=
  match w.history file with
  | .error e => .failure e.message []
  | .ok history =>
    if select then runSelect w history (w.promptLines file) json
    else .success (showRecords json (History.extract history)) (History.extractLog history)

def runIndex (w : Surroundings) (file : Text) : Report :=
  let made := w.read.indexer file
  match made.result with
  | .error e => .failure e.message made.log
  | .ok table => .success (renderTable table) made.log

/-- The last log record of a service that comes to the end of its input. -/
def closing : Log.Record := ⟨.info, .command, "stdin closed, shutting down".toList⟩

/-- Answers the lines of the input up to one that is no text. -/
def runServe (w : Surroundings) : Report :=
  let (lines, broken) := goodLines (inputLines w.input)
  let outcome := w.session.serve lines .empty
  let output := outcome.value.flatMap asLine
  let log := Event.records outcome.events
  if broken then ⟨1, output, renderError FileError.notText.message, log⟩
  else .success output (log ++ [closing])

def run (w : Surroundings) : Task → Report
  | .build throwpoint json => runBuild w throwpoint json
  | .errors file json select => runErrors w file json select
  | .index file => runIndex w file
  | .serve => runServe w

def runArguments (w : Surroundings) (arguments : List Text) : Report :=
  match parse arguments with
  | .command c => run w c
  | .version => .version
  | .help => .help
  | .misuse => .misuse

end ScriptTrace.Command
