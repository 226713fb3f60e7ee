import ScriptTrace.Text.Digits

/-! Stacktraces and their frames.
A frame is one call or one position in a file, and the last frame is where the error was thrown. -/
namespace ScriptTrace
open Text

/-- One entry of a stacktrace. What is unknown is empty or zero. -/
structure Frame where
  /-- Name of the running function, empty for a position in a file. -/
  funcname : Text
  /-- Line counted from the start of the function. -/
  flnum : Nat
  line : Text
  filename : Text
  /-- Line counted from the start of the file. -/
  lnum : Nat
  /-- What the frame is shown with. -/
  text : Text
  deriving DecidableEq, Repr

namespace Frame

def empty : Frame := ⟨[], 0, [], [], 0, []⟩

def label (funcname : Text) (flnum : Nat) : Text :=
  funcname ++ [':'] ++ decimal flnum ++ [':']

def ofFunction (funcname : Text) (flnum : Nat) : Frame :=
  { empty with funcname, flnum, text := label funcname flnum }

def ofFile (filename : Text) (lnum : Nat) : Frame :=
  { empty with filename, lnum }

def display (f : Frame) : Text :=
  f.filename ++ [':'] ++ decimal f.lnum ++ ": ".toList ++ f.text

end Frame

/-- Frames from the outermost caller to the one that threw. -/
structure Stacktrace where
  frames : List Frame
  deriving DecidableEq, Repr

namespace Stacktrace

def last? (s : Stacktrace) : Option Frame :=
  s.frames.getLast?

def modifyLast (s : Stacktrace) (f : Frame → Frame) : Stacktrace :=
  match s.frames.getLast? with
  | none => s
  | some last => ⟨s.frames.dropLast ++ [f last]⟩

/-- A line for each frame, the innermost first. -/
def format (s : Stacktrace) : Text :=
  s.frames.reverse.flatMap fun f => "    at ".toList ++ f.display ++ ['\n']

end Stacktrace
end ScriptTrace
