import ScriptTrace.Json.Basic
import ScriptTrace.Text.Quoted

/-! JSON text, in one line or laid out over many.
Members are written in the order in which a value has them. -/
namespace ScriptTrace.Json
open Text

def escapedChar (c : Char) : Text :=
  if c = '"' then ['\\', '"']
  else if c = '\\' then ['\\', '\\']
  else if c = '\n' then ['\\', 'n']
  else if c = '\r' then ['\\', 'r']
  else if c = '\t' then ['\\', 't']
  else if c = '\x08' then ['\\', 'b']
  else if c = '\x0c' then ['\\', 'f']
  else if c.toNat < 0x20 then
    let digits := hex c.toNat
    ['\\', 'u'] ++ List.replicate (4 - digits.length) '0' ++ digits
  else [c]

def writeString (s : Text) : Text :=
  '"' :: s.flatMap escapedChar ++ ['"']

mutual

def write : Json → Text
  | null => "null".toList
  | bool true => "true".toList
  | bool false => "false".toList
  | whole n => signedDecimal n
  | float x => x.display
  | string s => writeString s
  | array items => '[' :: writeItems items ++ [']']
  | object members => '\x7b' :: writeMembers members ++ ['\x7d']

def writeItems : List Json → Text
  | [] => []
  | [v] => write v
  | v :: w :: rest => write v ++ ',' :: writeItems (w :: rest)

def writeMembers : List (Text × Json) → Text
  | [] => []
  | [(k, v)] => writeString k ++ ':' :: write v
  | (k, v) :: m :: rest => writeString k ++ ':' :: write v ++ ',' :: writeMembers (m :: rest)

end

def newLine (depth : Nat) : Text :=
  '\n' :: List.replicate (2 * depth) ' '

mutual

/-- A value with each item and each member on a line of its own, two blanks deeper than its array
or object, which begins at this depth. -/
def pretty (depth : Nat) : Json → Text
  | array [] => "[]".toList
  | array (v :: rest) =>
    '[' :: prettyItems (depth + 1) (v :: rest) ++ newLine depth ++ [']']
  | object [] => ['\x7b', '\x7d']
  | object (m :: rest) =>
    '\x7b' :: prettyMembers (depth + 1) (m :: rest) ++ newLine depth ++ ['\x7d']
  | null => write null
  | bool b => write (bool b)
  | whole n => write (whole n)
  | float x => write (float x)
  | string s => write (string s)

def prettyItems (depth : Nat) : List Json → Text
  | [] => []
  | [v] => newLine depth ++ pretty depth v
  | v :: w :: rest => newLine depth ++ pretty depth v ++ ',' :: prettyItems depth (w :: rest)

def prettyMembers (depth : Nat) : List (Text × Json) → Text
  | [] => []
  | [(k, v)] => newLine depth ++ writeString k ++ ": ".toList ++ pretty depth v
  | (k, v) :: m :: rest =>
    newLine depth ++ writeString k ++ ": ".toList ++ pretty depth v ++
      ',' :: prettyMembers depth (m :: rest)

end
end ScriptTrace.Json
