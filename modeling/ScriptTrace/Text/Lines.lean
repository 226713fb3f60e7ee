import ScriptTrace.Text.Basic

/-! Lines of a text, read in the two ways that files and message logs are read.
A log is split at line feeds alone; lines also give up their line ends. -/
namespace ScriptTrace.Text

def dropReturn (line : Text) : Text :=
  dropEnd ['\r'] line

def closeLines : List Text → List Text
  | [] => []
  -- no line feed ended the last piece, so it keeps a carriage return and is no line when empty
  | [last] => if last = [] then [] else [last]
  | line :: next :: rest => dropReturn line :: closeLines (next :: rest)

/-- The lines of a text without their line ends. -/
def lines (s : Text) : List Text :=
  closeLines (s.splitOn '\n')

end ScriptTrace.Text
