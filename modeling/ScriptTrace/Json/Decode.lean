import ScriptTrace.Json.Basic
import ScriptTrace.Text.Quoted

/-! The decoding of JSON values into records.
A failure names what was found and what was expected, and the first one in the order of reading is
told. -/
namespace ScriptTrace
open Text

/-- Why a JSON value does not have a shape. -/
inductive DecodeError where
  | wrongType (found : Json) (expected : Text)
  | wrongNumber (n : Int) (expected : Text)
  | missing (member : Text)
  /-- An array has a number of items that does not fit. -/
  | wrongLength (count : Nat) (expected : Text)
  | tooLong (count : Nat)
  | unknownVariant (name : Text) (known : List Text)

namespace DecodeError

def counted (n : Nat) (thing : Text) : Text :=
  decimal n ++ [' '] ++ thing ++ (if n = 1 then [] else ['s'])

def describe : Json → Text
  | .null => "null".toList
  | .bool b => "boolean `".toList ++ (if b then "true" else "false").toList ++ "`".toList
  | .whole n => "integer `".toList ++ signedDecimal n ++ "`".toList
  | .float x => "floating point `".toList ++ x.display ++ "`".toList
  | .string s => "string ".toList ++ quoted s
  | .array _ => "sequence".toList
  | .object _ => "map".toList

def message : DecodeError → Text
  | wrongType found expected =>
    "invalid type: ".toList ++ describe found ++ ", expected ".toList ++ expected
  | wrongNumber n expected =>
    "invalid value: ".toList ++ describe (.whole n) ++ ", expected ".toList ++ expected
  | missing member => "missing field `".toList ++ member ++ "`".toList
  | wrongLength count expected =>
    "invalid length ".toList ++ decimal count ++ ", expected ".toList ++ expected
  | tooLong count =>
    "invalid length ".toList ++ decimal count ++ ", expected fewer elements in array".toList
  | unknownVariant name known =>
    "unknown variant `".toList ++ name ++ "`, expected one of ".toList ++
      join ", ".toList (known.map fun k => "`".toList ++ k ++ "`".toList)

end DecodeError

namespace Json

def toText : Json → Except DecodeError Text
  | string s => .ok s
  | v => .error (.wrongType v "a string".toList)

def toWord : Json → Except DecodeError Nat
  | whole (.ofNat n) => .ok n
  | whole n => .error (.wrongNumber n "usize".toList)
  | v => .error (.wrongType v "usize".toList)

def toList {α : Type} (item : Json → Except DecodeError α) : Json → Except DecodeError (List α)
  | array vs => vs.mapM item
  | v => .error (.wrongType v "a sequence".toList)

/-- A member of a record: its key, and how its value changes a draft of the record. -/
structure Member (σ : Type) where
  key : Text
  set : Json → σ → Except DecodeError σ

/-- How a record of a type is decoded: its name, its members in the order of declaration, and which
of them may be absent. -/
structure Shape (σ : Type) where
  name : Text
  members : List (Member σ)
  lenient : Bool
  /-- The draft that has no member yet. -/
  draft : σ

namespace Shape
variable {σ : Type}

/-- Sets members from the items of an array, in order, as far as there are items. -/
def setItems (total : Nat) : List (Member σ) → List Json → σ → Except DecodeError (σ × List (Member σ))
  | m :: ms, v :: vs, draft => do setItems total ms vs (← m.set v draft)
  | [], _ :: _, _ => .error (.tooLong total)
  | ms, [], draft => .ok (draft, ms)

/-- Sets members from those of an object, in the order of the object. Other keys mean nothing. -/
def setMembers (members : List (Member σ)) : List (Text × Json) → σ → Except DecodeError σ
  | [], draft => .ok draft
  | (k, v) :: rest, draft =>
    match members.find? (·.key = k) with
    | none => setMembers members rest draft
    | some m => do setMembers members rest (← m.set v draft)

def title (shape : Shape σ) : Text :=
  "struct ".toList ++ shape.name

/-- Decodes a record from an object, or from an array with the members in order. -/
def decode (shape : Shape σ) : Json → Except DecodeError σ
  | object given => do
    let draft ← setMembers shape.members given shape.draft
    match shape.members.find? fun m => !shape.lenient && !given.any (·.1 = m.key) with
    | some m => .error (.missing m.key)
    | none => .ok draft
  | array items => do
    let (draft, unset) ← setItems items.length shape.members items shape.draft
    if unset.isEmpty || shape.lenient then .ok draft
    else
      .error (.wrongLength items.length
        (shape.title ++ " with ".toList ++
          DecodeError.counted shape.members.length "element".toList))
  | v => .error (.wrongType v shape.title)

end Shape
end Json
end ScriptTrace
