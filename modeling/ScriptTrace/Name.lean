import ScriptTrace.Text.Digits

/-! Function names, as chains, running functions and sources spell them.
The name in a chain leads to the running function, and that one to its definition. -/
namespace ScriptTrace.Name
open Text

def localMark : Text := "<SNR>".toList

def localScope : Text := "s:".toList

/-- The name of the running function that a chain calls `body`. Dictionary and anonymous functions
are numbers in a chain and numbers in braces otherwise. -/
def display (body : Text) : Text :=
  if isDigits body then ['\x7b'] ++ body ++ ['\x7d'] else body

/-- The name under which a running function is defined in its source. -/
def source (name : Text) : Text :=
  match localMark.isPrefixOf? name with
  | none => name
  | some rest =>
    match cutFirst? ['_'] rest with
    | none => name
    | some (_, bare) => localScope ++ bare

end ScriptTrace.Name
