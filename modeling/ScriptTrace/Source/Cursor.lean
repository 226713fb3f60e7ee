import ScriptTrace.Text.Utf8

/-! A cursor over the bytes of one source line.
It only moves forward, and what it has passed and what is left are together the line. -/
namespace ScriptTrace.Source

/-- A place in a line: the bytes before it, the nearest first, and the bytes after it. -/
structure Cursor where
  passed : Utf8.Bytes
  left : Utf8.Bytes
  deriving DecidableEq, Repr

namespace Cursor

def ofText (line : Text) : Cursor := ⟨[], Utf8.encode line⟩

def pos (c : Cursor) : Nat := c.passed.length

def source (c : Cursor) : Utf8.Bytes := c.passed.reverse ++ c.left

def peek (c : Cursor) : Option UInt8 := c.left.head?

def atEnd (c : Cursor) : Bool := c.left.isEmpty

def advance (c : Cursor) : Option UInt8 × Cursor :=
  match c.left with
  | [] => (none, c)
  | b :: rest => (some b, ⟨b :: c.passed, rest⟩)

/-- Passes the next byte if it is `expected`, and tells whether it was. -/
def accept (c : Cursor) (expected : UInt8) : Bool × Cursor :=
  if c.peek = some expected then (true, c.advance.2) else (false, c)

/-- Passes bytes as long as they satisfy `p`, and tells how many. -/
def skipWhile (c : Cursor) (p : UInt8 → Bool) : Nat × Cursor :=
  let run := c.left.takeWhile p
  (run.length, ⟨run.reverse ++ c.passed, c.left.dropWhile p⟩)

def isGap (b : UInt8) : Bool := b = 0x20 || b = 0x09

def isLetter (b : UInt8) : Bool :=
  (0x41 ≤ b && b ≤ 0x5A) || (0x61 ≤ b && b ≤ 0x7A)

def skipGaps (c : Cursor) : Nat × Cursor := c.skipWhile isGap

/-- The text of the bytes from `start` to the cursor, empty if they begin or end inside a
character. -/
def sliceFrom (c : Cursor) (start : Nat) : Text :=
  (Utf8.decode? (c.passed.reverse.drop start)).getD []

theorem source_advance (c : Cursor) : c.advance.2.source = c.source := by
  unfold advance source
  split <;> simp_all

theorem source_skipWhile (c : Cursor) (p : UInt8 → Bool) :
    (c.skipWhile p).2.source = c.source := by
  simp [skipWhile, source, List.takeWhile_append_dropWhile]

end Cursor
end ScriptTrace.Source
