import ScriptTrace.Text.Basic

/-! The values that a YAML document writes.
Scalars keep how they are written, because only some of them can stand for nothing or for a truth
value. -/
namespace ScriptTrace

namespace Yaml

/-- How a scalar is written. -/
inductive Style where
  | plain
  | quoted
  /-- As a block of lines that are kept. -/
  | literal
  /-- As a block of lines that are folded. -/
  | folded
  deriving DecidableEq, Repr

end Yaml

inductive Yaml where
  /-- A scalar, with its tag if one is written. It is plain and empty where nothing is written. -/
  | scalar (s : Text) (style : Yaml.Style) (tag : Option Text)
  | sequence (items : List Yaml)
  /-- A mapping, with its members in the order they are written in. -/
  | mapping (members : List (Yaml × Yaml))
  /-- The value at the anchor of this number. -/
  | reference (anchor : Nat)
  deriving Repr

namespace Yaml

def nothing : Yaml := scalar [] .plain none

mutual

/-- The parts of a value: one for a scalar or a reference, two for what is around items or
members. -/
def size : Yaml → Nat
  | scalar _ _ _ => 1
  | reference _ => 1
  | sequence items => sizeItems items + 2
  | mapping members => sizeMembers members + 2

def sizeItems : List Yaml → Nat
  | [] => 0
  | v :: vs => v.size + sizeItems vs

def sizeMembers : List (Yaml × Yaml) → Nat
  | [] => 0
  | (k, v) :: ms => k.size + v.size + sizeMembers ms

end

/-- A document: its value, if it has one, and the values at its anchors. -/
structure Document where
  /-- The value. A text of blanks and comments has none. -/
  root : Option Yaml
  /-- The values at the anchors. Of two with one number the first counts. -/
  anchored : List (Nat × Yaml)
  deriving Repr

/-- A decoding, which may follow only so many more references. -/
abbrev Decoder := StateT Nat Option

namespace Document

/-- References that may be followed for each part of a document. -/
def referenceLimit : Nat := 100

def follow (d : Document) : Yaml → Decoder Yaml
  | reference n => fun
    | 0 => none
    | room + 1 => (d.anchored.lookup n).map fun v => (v, room)
  | v => pure v

def decode {α : Type} (d : Document) (decoder : Decoder α) : Option α :=
  (decoder (referenceLimit * (d.root.getD nothing).size)).map (·.1)

end Document
end Yaml
end ScriptTrace
