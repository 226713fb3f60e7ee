import ScriptTrace.Command.Input
import ScriptTrace.Command.Paint
import ScriptTrace.Session.Host
import ScriptTrace.Text.Blank

/-! The prompt for the number of a candidate.
The first line that is a number or blank decides, and the end of the input decides for none. -/
namespace ScriptTrace.Command
open Text

/-- What comes of a prompt: the answer, and what the reader was shown on the way. -/
structure Prompt where
  /-- The number chosen, zero for none. -/
  answer : Except QueryError Int
  shown : Text

namespace Prompt

def call : Text := "inputlist".toList

/-- What a line comes to: an answer, or a remark and another try. -/
inductive Reply where
  | answer (number : Int)
  /-- The line is no number, and this is shown. -/
  | again (remark : Text)
  deriving DecidableEq, Repr

def reply (line : Text) : Reply :=
  let word := trim (typed line)
  if word = [] then .answer 0
  else
    match signed? word with
    | some n => .answer n
    | none => .again (asLine (yellow "not a number:".toList ++ [' '] ++ word))

def read : List (Option Text) → Prompt
  | [] => ⟨.ok 0, []⟩
  | none :: _ => ⟨.error (.failed call FileError.notText.message), []⟩
  | some line :: rest =>
    match reply line with
    | .answer n => ⟨.ok n, []⟩
    | .again remark => ⟨(read rest).answer, remark ++ (read rest).shown⟩

def heading (candidates : List Text) : Text :=
  asLine (bold (blue "Select error:".toList)) ++ candidates.flatMap asLine

/-- Shows the candidates and reads lines until one decides. -/
def run (input : List (Option Text)) (candidates : List Text) : Prompt :=
  let p := read input
  ⟨p.answer, heading candidates ++ p.shown⟩

end Prompt
end ScriptTrace.Command
