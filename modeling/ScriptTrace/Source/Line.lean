import ScriptTrace.Source.Cursor

/-! The lines of a script source.
Only the commands that open and close a function definition matter to the index. -/
namespace ScriptTrace.Source

/-- What a line of a source is. -/
inductive LineKind where
  /-- It opens the definition of the function with this written name. -/
  | definition (name : Text)
  | closing
  | other
  deriving DecidableEq, Repr

namespace LineKind

def openCommand : Text := "function".toList

def closeCommand : Text := "endfunction".toList

/-- The word is `command` or a shorter form of it with at least `least` letters. -/
def isShortFor (word command : Text) (least : Nat) : Bool :=
  least ≤ word.length && word.isPrefixOf command

/-- A byte that may stand before a command: a space, a tab or a colon. -/
def isIndent (b : UInt8) : Bool := Cursor.isGap b || b = 0x3A

/-- A byte that a function name does not have: an opening parenthesis, a space or a tab. -/
def endsName (b : UInt8) : Bool := b = 0x28 || Cursor.isGap b

def definition? (c : Cursor) : Option Text :=
  let c := (c.accept 0x21).2
  let c := c.skipGaps.2
  let start := c.pos
  let c := (c.skipWhile fun b => !endsName b).2
  let name := c.sliceFrom start
  -- without an argument list the command only shows a function
  if name.isEmpty || !(c.skipGaps.2.accept 0x28).1 then none else some name

def classify (line : Text) : LineKind :=
  let c := ((Cursor.ofText line).skipWhile isIndent).2
  -- comments and continuation lines hold no command
  if c.atEnd || c.peek == some 0x22 || c.peek == some 0x5C then .other
  else
    let start := c.pos
    let c := (c.skipWhile Cursor.isLetter).2
    let command := c.sliceFrom start
    if isShortFor command closeCommand 4 then .closing
    else if isShortFor command openCommand 2 then
      match definition? c with
      | some name => .definition name
      | none => .other
    else .other

end LineKind
end ScriptTrace.Source
