import ScriptTrace.Text.Digits

/-! Why a file could not be read.
The wording and the numbers are those of the operating system. -/
namespace ScriptTrace

/-- Failure to read a file. -/
inductive FileError where
  | notFound
  | isFolder
  | notFolder
  | nameTooLong
  | nullInPath
  /-- The bytes are no text. -/
  | notText
  /-- Any other refusal of the operating system. -/
  | refused (reason : Text) (code : Nat)
  deriving DecidableEq, Repr

namespace FileError

def numbered (reason : Text) (code : Nat) : Text :=
  reason ++ " (os error ".toList ++ Text.decimal code ++ [')']

def message : FileError → Text
  | notFound => numbered "No such file or directory".toList 2
  | isFolder => numbered "Is a directory".toList 21
  | notFolder => numbered "Not a directory".toList 20
  | nameTooLong => numbered "File name too long".toList 36
  | nullInPath => "file name contained an unexpected NUL byte".toList
  | notText => "stream did not contain valid UTF-8".toList
  | refused reason code => numbered reason code

end FileError
end ScriptTrace
