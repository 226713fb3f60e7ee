import ScriptTrace.Number.Binary64

/-! JSON values.
Whole numbers and floating-point numbers are kept apart, because messages tell them apart. -/
namespace ScriptTrace

/-- A JSON value. An object keeps its members in the order they are written in. -/
inductive Json where
  | null
  | bool (b : Bool)
  /-- A whole number, from the least signed to the greatest unsigned word of 64 bits. -/
  | whole (n : Int)
  | float (x : Binary64)
  | string (s : Text)
  | array (items : List Json)
  | object (members : List (Text × Json))
  deriving Repr

namespace Json

def insertMember (key : Text) (value : Json) : List (Text × Json) → List (Text × Json)
  | [] => [(key, value)]
  | (k, v) :: rest =>
    if key < k then (key, value) :: (k, v) :: rest
    else if key = k then (key, value) :: rest
    else (k, v) :: insertMember key value rest

/-- The members in the order of their keys, the last of those with one key. -/
def sortMembers (members : List (Text × Json)) : List (Text × Json) :=
  members.foldl (fun sorted (key, value) => insertMember key value sorted) []

def sorted (members : List (Text × Json)) : Json :=
  object (sortMembers members)

def strings (texts : List Text) : Json :=
  array (texts.map string)

def ofText? (s : Option Text) : Json :=
  s.elim null string

end Json
end ScriptTrace
