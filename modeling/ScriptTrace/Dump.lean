import ScriptTrace.Disk.Path
import ScriptTrace.Text.Blank
import ScriptTrace.Text.Digits
import ScriptTrace.Text.Lines

/-! Function dumps, the editor's verbose listings of one function.
A dump has a header, perhaps a line that names the source file, and numbered body lines. -/
namespace ScriptTrace

/-- A function dump taken apart. -/
structure Dump where
  /-- File that the function was defined in, none for the command line. -/
  sourceFile : Option Text
  /-- All lines of the listing. -/
  lines : List Text
  deriving DecidableEq, Repr

namespace Dump
open Text

def sourceMark : Text := "Last set from ".toList

def lineMark : Text := " line ".toList

def numberColumns : Nat := 3

def stripLine (path : Text) : Text :=
  match cutLast? lineMark path with
  | none => path
  | some (before, digits) => if isDigits digits then before else path

def expandHome (home : Option Text) (path : Text) : Text :=
  match "~/".toList.isPrefixOf? path, home with
  | some rest, some home => Path.join home rest
  | _, _ => path

/-- The source file that the second line of a dump names. -/
def sourceFile? (home : Option Text) (line : Text) : Option Text :=
  (sourceMark.isPrefixOf? (trimStart line)).map fun path => expandHome home (stripLine path)

def parse (home : Option Text) (dump : Text) : Dump :=
  let lines := Text.lines (trimFeeds dump)
  ⟨lines[1]?.bind (sourceFile? home), lines⟩

/-- The number of a body line and its text, without the blanks that fill up the number's columns. -/
def splitNumbered? (line : Text) : Option (Nat × Text) :=
  let digits := line.takeWhile Char.isDigit
  let rest := line.dropWhile Char.isDigit
  let padding := min (numberColumns - digits.length) (rest.takeWhile (· == ' ')).length
  (bareNumber? wordLimit digits).map fun number => (number, rest.drop padding)

/-- The text of a body line, the last one of that number. -/
def lineText? (dump : Dump) (number : Nat) : Option Text :=
  ((dump.lines.filterMap splitNumbered?).filter (·.1 == number)).getLast?.map (·.2)

end Dump
end ScriptTrace
