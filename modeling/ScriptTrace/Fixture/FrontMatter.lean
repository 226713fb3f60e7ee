import ScriptTrace.History.Extractor
import ScriptTrace.Yaml.Reading

/-! The front matter of a fixture.
It stands between two marks in front of a message history and tells what to expect of it. -/
namespace ScriptTrace.Fixture
open Text History

def mark : Text := "---".toList

def divider : Text := "\n---\n".toList

def split? (source : Text) : Option (Text × Text) :=
  match (mark ++ ['\n']).isPrefixOf? source with
  | none => none
  | some rest =>
    match cutFirst? divider rest with
    | some parts => some parts
    | none => (('\n' :: mark).isSuffixOf? rest).map fun yaml => (yaml, [])

/-- The history behind the front matter, or the whole source where there is none. -/
def body (source : Text) : Text :=
  ((split? source).map (·.2)).getD source

/-- What a fixture tells of its history. -/
structure Metadata where
  description : Option Text
  expected : List ErrorRecord
  build : Bool
  deriving DecidableEq, Repr

namespace Metadata

def nullWords : List Text := ["~".toList, "null".toList, "Null".toList, "NULL".toList]

def nullTag : Text := "tag:yaml.org,2002:null".toList

def boolTag : Text := "tag:yaml.org,2002:bool".toList

section
variable (d : Yaml.Document)

def toText (v : Yaml) : Yaml.Decoder Text := do
  match ← d.follow v with
  | .scalar s _ _ => return s
  | _ => failure

/-- The text that a scalar is, or that there is none. Behind another tag than that of nothing every
scalar is a text. -/
def toOptional (v : Yaml) : Yaml.Decoder (Option Text) := do
  match ← d.follow v with
  | .scalar s .plain none => return if s = [] ∨ nullWords.contains s then none else some s
  | .scalar s .plain (some tag) =>
    if tag ≠ nullTag then return some s
    else if nullWords.contains s then return none
    else failure
  | .scalar s _ _ => return some s
  | _ => failure

/-- The truth value that a scalar is. It is plain, or a block with the tag of truth values. -/
def toBool (v : Yaml) : Yaml.Decoder Bool := do
  match ← d.follow v with
  | .scalar s style tag =>
    if style ≠ .plain && (style ≠ .literal || tag ≠ some boolTag) then failure
    else if ["true".toList, "True".toList, "TRUE".toList].contains s then return true
    else if ["false".toList, "False".toList, "FALSE".toList].contains s then return false
    else failure
  | _ => failure

/-- The members that a mapping has, or nothing, which has none. Every key is a scalar. -/
def toMembers (v : Yaml) : Yaml.Decoder (List (Text × Yaml)) := do
  match ← d.follow v with
  | .mapping members => members.mapM fun (k, v) => do return (← toText d k, v)
  | .scalar [] .plain _ => return []
  | _ => failure

def member? (key : Text) (members : List (Text × Yaml)) : Option (Option Yaml) :=
  match members.filter (·.1 = key) with
  | [] => some none
  | [(_, v)] => some (some v)
  | _ => none

def memberOr {α : Type} (default : α) (item : Yaml → Yaml.Decoder α) (key : Text)
    (members : List (Text × Yaml)) : Yaml.Decoder α := do
  match ← member? key members with
  | some v => item v
  | none => return default

def toList {α : Type} (item : Yaml → Yaml.Decoder α) (v : Yaml) : Yaml.Decoder (List α) := do
  match ← d.follow v with
  | .sequence vs => vs.mapM item
  | .scalar [] .plain _ => return []
  | _ => failure

def toRecord (v : Yaml) : Yaml.Decoder ErrorRecord := do
  let members ← toMembers d v
  let throwpoint ← toText d (← ← member? "throwpoint".toList members)
  let messages ← toList d (toText d) (← ← member? "messages".toList members)
  return ⟨throwpoint, messages⟩

/-- What a document tells of a history. Keys that are not there leave the defaults. -/
def ofDocument : Yaml.Decoder Metadata := do
  let members ← match d.root with
    | some v => toMembers d v
    | none => pure []
  let description ← memberOr none (toOptional d) "description".toList members
  let expected ← memberOr [] (toList d (toRecord d)) "expect".toList members
  let build ← memberOr true (toBool d) "build".toList members
  return ⟨description, expected, build⟩

end

def parse? (source : Text) : Option Metadata := do
  let (yaml, _) ← split? source
  let d ← Yaml.read? yaml
  d.decode (ofDocument d)

end Metadata
end ScriptTrace.Fixture
