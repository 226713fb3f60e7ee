import ScriptTrace.Text.Digits

/-! Colours of a terminal.
A painted text sets a colour or a weight before it and takes it back behind it. -/
namespace ScriptTrace.Command
open Text

def setting (number : Nat) : Text :=
  ['\x1b', '['] ++ decimal number ++ ['m']

def paint (colour : Nat) (s : Text) : Text :=
  setting colour ++ s ++ setting 39

def bold (s : Text) : Text :=
  setting 1 ++ s ++ setting 0

def red (s : Text) : Text := paint 31 s

def yellow (s : Text) : Text := paint 33 s

def cyan (s : Text) : Text := paint 36 s

def grey (s : Text) : Text := paint 90 s

def blue (s : Text) : Text := paint 94 s

def asLine (s : Text) : Text := s ++ ['\n']

end ScriptTrace.Command
