import ScriptTrace.Text.Printable

/-! Texts in double quotes, as messages show them.
A quotation has only printable characters and never ends early. -/
namespace ScriptTrace.Text

def hex (n : Nat) : Text :=
  Nat.toDigits 16 n

def quotedChar (c : Char) : Text :=
  if c = '\x00' then ['\\', '0']
  else if c = '\t' then ['\\', 't']
  else if c = '\r' then ['\\', 'r']
  else if c = '\n' then ['\\', 'n']
  else if c = '"' || c = '\\' then ['\\', c]
  else if isPrintable c then [c]
  else ['\\', 'u', '\x7b'] ++ hex c.toNat ++ ['\x7d']

def quoted (s : Text) : Text :=
  '"' :: s.flatMap quotedChar ++ ['"']

end ScriptTrace.Text
