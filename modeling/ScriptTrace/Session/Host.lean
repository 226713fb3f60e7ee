import ScriptTrace.Disk.Error
import ScriptTrace.Session.Action
import ScriptTrace.Session.Error
import ScriptTrace.Text.Utf8

/-! The collaborators of a session.
They are functions of their arguments: the editor, the files, the indexer and the chooser. -/
namespace ScriptTrace
open Text

/-- How files are read. -/
abbrev FileReader := Text → Except FileError Utf8.Bytes

namespace FileReader

def indexer (read : FileReader) (path : Text) : Indexing :=
  match read path with
  | .error e => ⟨.error (.unreadable path e), []⟩
  | .ok bytes =>
    let source := Utf8.decodeLossy bytes
    ⟨Source.index source, Source.indexLog source⟩

def text (read : FileReader) (path : Text) : Except FileError Text :=
  match read path with
  | .error e => .error e
  | .ok bytes =>
    match Utf8.decode? bytes with
    | some s => .ok s
    | none => .error .notText

end FileReader

/-- The running editor, or what stands for it. -/
structure Host where
  /-- The value of an expression, which has to be a string. -/
  evaluate : Text → Except QueryError Text
  describe : Text → Except QueryError Text
  read : FileReader

namespace Host

def chainExpression : Text := "expand('<sfile>')".toList

def historyExpression : Text := "execute(':message')".toList

def describeCall (name : Text) : Text := ":verbose function ".toList ++ name

/-- No editor at all. Files can still be read. -/
def offline (read : FileReader) : Host where
  evaluate expression := .error (.unavailable expression)
  describe name := .error (.unavailable (describeCall name))
  read := read

end Host

/-- Picks one of some candidates by its number from one, or none by zero. -/
abbrev Chooser := List Text → Except QueryError Int

/-- The collaborators of a session, and the home directory that dumps abbreviate. -/
structure Session where
  host : Host
  indexer : Text → Indexing
  /-- The chooser. Without one nothing is ever chosen. -/
  chooser : Option Chooser
  home : Option Text

namespace Session

def offline (read : FileReader) (home : Option Text) : Session where
  host := Host.offline read
  indexer := read.indexer
  chooser := none
  home := home

end Session
end ScriptTrace
