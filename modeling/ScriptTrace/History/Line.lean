import ScriptTrace.Text.Blank
import ScriptTrace.Text.Digits
import ScriptTrace.Throwpoint.Normal

/-! The lines of a message history.
A line opens a block, numbers its errors, is an error message, or is any other chatter. -/
namespace ScriptTrace.History
open Text

/-- What a line of a message history is. -/
inductive LineKind where
  /-- The header of a block, with the place where the errors came up. -/
  | header (place : Text)
  /-- The number of the line that the messages after it belong to. -/
  | lineNumber (digits : Text)
  /-- A message with an error code. -/
  | errorCode
  | other
  deriving DecidableEq, Repr

namespace LineKind

def lineMark : Text := "line".toList

/-- The digits of a line number, which white space divides from its mark and a colon ends. -/
def number? (line : Text) : Option Text :=
  match lineMark.isPrefixOf? line with
  | none => none
  | some rest =>
    match [':'].isSuffixOf? (trimStart rest) with
    | none => none
    | some digits =>
      if (trimStart rest).length < rest.length && isDigits digits then some digits else none

/-- The line begins with an error code: the letter E, digits, and a colon. -/
def isErrorCode : Text → Bool
  | 'E' :: rest =>
    !(rest.takeWhile Char.isDigit).isEmpty && (rest.dropWhile Char.isDigit).head? == some ':'
  | _ => false

def classify (line : Text) : LineKind :=
  match Throwpoint.headerMark.isPrefixOf? line with
  | some rest => .header (dropEnd [':'] rest)
  | none =>
    match number? line with
    | some digits => .lineNumber digits
    | none => if isErrorCode line then .errorCode else .other

end LineKind
end ScriptTrace.History
