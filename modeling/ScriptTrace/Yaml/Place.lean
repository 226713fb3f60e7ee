import ScriptTrace.Text.Basic

/-! Places in a YAML text, and the characters that matter to its layout.
A place knows its line and column, because the indentation carries meaning. -/
namespace ScriptTrace.Yaml

def isAllowed (c : Char) : Bool :=
  let n := c.toNat
  c = '\t' || c = '\n' || c = '\r' || (0x20 ≤ n && n ≤ 0x7E) || n = 0x85 ||
    (0xA0 ≤ n && n ≤ 0xD7FF) || (0xE000 ≤ n && n ≤ 0xFFFD) || 0x10000 ≤ n

/-- The mark that may stand at the start of a text and is no part of it. -/
def orderMark : Char := Char.ofNat 0xFEFF

/-- The line and the paragraph separator, which are line breaks that a scalar keeps. -/
def isSeparator (c : Char) : Bool := c.toNat = 0x2028 || c.toNat = 0x2029

def isBreak (c : Char) : Bool := c = '\r' || c = '\n' || c.toNat = 0x85 || isSeparator c

def isGap (c : Char) : Bool := c = ' ' || c = '\t'

def isSpace (c : Char) : Bool := isGap c || isBreak c

def isEdge (next : Option Char) : Bool := next.all isSpace

def isWord (c : Char) : Bool := c.isAlphanum || c = '_' || c = '-'

def isFlowMark (c : Char) : Bool := ",[]\x7b\x7d".toList.contains c

def hexValue? (digits : Text) : Option Nat :=
  digits.foldlM
    (fun n c =>
      if c.isDigit then some (n * 16 + (c.toNat - '0'.toNat))
      else if 'a' ≤ c ∧ c ≤ 'f' then some (n * 16 + (c.toNat - 'a'.toNat + 10))
      else if 'A' ≤ c ∧ c ≤ 'F' then some (n * 16 + (c.toNat - 'A'.toNat + 10))
      else none)
    0

structure Place where
  rest : Text
  /-- Bytes before the place. -/
  index : Nat
  /-- Lines before the line of the place. -/
  line : Nat
  /-- Characters of the line before the place. -/
  column : Nat
  deriving DecidableEq, Repr

namespace Place

def start (s : Text) : Place := ⟨s, 0, 0, 0⟩

def peek (p : Place) : Option Char := p.rest.head?

def pass (p : Place) (count : Nat) : Place :=
  ⟨p.rest.drop count, p.index + Text.byteCount (p.rest.take count), p.line, p.column + count⟩

def passWhile (p : Place) (q : Char → Bool) : Place :=
  p.pass (p.rest.takeWhile q).length

def passBreak (p : Place) : Place :=
  match p.rest with
  | '\r' :: '\n' :: rest => ⟨rest, p.index + 2, p.line + 1, 0⟩
  | c :: rest => ⟨rest, p.index + c.utf8Size, p.line + 1, 0⟩
  | [] => p

def atBreak (p : Place) : Bool := p.peek.any isBreak

/-- What a line break that comes next reads as. -/
def breakText (p : Place) : Text :=
  match p.peek with
  | some c => if isSeparator c then [c] else if isBreak c then ['\n'] else []
  | none => []

/-- This text comes next, and behind it white space or the end. -/
def atMark (p : Place) (mark : Text) : Bool :=
  match mark.isPrefixOf? p.rest with
  | some rest => isEdge rest.head?
  | none => false

def openingMark : Text := "---".toList

def closingMark : Text := "...".toList

def atDocumentMark (p : Place) : Bool :=
  p.column = 0 && (p.atMark openingMark || p.atMark closingMark)

end Place
end ScriptTrace.Yaml
