import ScriptTrace.Throwpoint.Link

/-! Throwpoints in canonical form.
A throwpoint is a chain of function links or one position in a file. -/
namespace ScriptTrace

/-- Where an error was thrown. -/
inductive Throwpoint where
  /-- Function links, the outermost caller first. -/
  | function (links : List Link)
  /-- A position outside any function. -/
  | file (link : Link)
  deriving DecidableEq, Repr

namespace Throwpoint
open Text

def functionMark : Text := "function ".toList

def chainMark : Text := "..".toList

/-- The segments of a chain between pairs of dots, taken from the left without overlap. -/
def segments : Text → List Text
  | [] => [[]]
  | '.' :: '.' :: rest => [] :: segments rest
  | c :: rest =>
    match segments rest with
    | [] => [[c]]
    | first :: others => (c :: first) :: others

def callerChain (chain : Text) : Text :=
  join chainMark (segments chain).dropLast

def splitLinks (chain : Text) : List Link :=
  (segments chain).map Link.parse

/-- The text ends in digits between brackets. -/
def isFilePosition (s : Text) : Bool :=
  match [']'].isSuffixOf? s with
  | none => false
  | some rest =>
    match cutLast? ['['] rest with
    | none => false
    | some (_, digits) => isDigits digits

def parse? (s : Text) : Option Throwpoint :=
  match functionMark.isPrefixOf? s with
  | some chain => some (.function (splitLinks chain))
  | none => if isFilePosition s then some (.file (Link.parse s)) else none

/-- The links, of which a file position has one. -/
def links : Throwpoint → List Link
  | .function ls => ls
  | .file l => [l]

def display : Throwpoint → Text
  | .function ls => functionMark ++ join chainMark (ls.map Link.display)
  | .file l => l.display

theorem segments_ne_nil (chain : Text) : segments chain ≠ [] := by
  fun_induction segments chain <;> simp_all

end Throwpoint
end ScriptTrace
