import ScriptTrace.Text.Blank
import ScriptTrace.Throwpoint.Basic

/-! The canonical form of throwpoints that come in other shapes.
A live throwpoint gives its line after a comma, a message block on a line of its own. -/
namespace ScriptTrace.Throwpoint
open Text

def headerMark : Text := "Error detected while processing ".toList

def liveMark : Text := ", line ".toList

def blockMark : Text := ":\nline".toList

def stripHeaders (s : Text) : Text :=
  match _h : headerMark.isPrefixOf? s with
  | some rest => stripHeaders rest
  | none => s
termination_by s.length
decreasing_by
  have hm : headerMark.length = 32 := by decide
  have h := length_of_isPrefixOf? _h
  omega

/-- The number of a message block, without the white space and the colon around it. -/
def blockNumber (s : Text) : Text :=
  (dropEnd [':'] (trimEnd s)).dropWhile (· == ' ')

def bracketed (place line : Text) : Text :=
  place ++ ['['] ++ line ++ [']']

/-- Puts the line of a throwpoint into brackets behind its place. -/
def normalize (s : Text) : Text :=
  let s := stripHeaders s
  match cutFirst? liveMark s with
  | some (place, line) => bracketed place line
  | none =>
    match cutFirst? blockMark s with
    | some (place, rest) => bracketed place (blockNumber rest)
    -- without a line to find, the text is canonical already
    | none => s

end ScriptTrace.Throwpoint
