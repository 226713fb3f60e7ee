import ScriptTrace.History.Extractor
import ScriptTrace.Json.Decode
import ScriptTrace.Trace.Frame

/-! The JSON form of stacktraces and error records.
Members that are empty or zero are left out of a frame, and decoding puts them back. -/
namespace ScriptTrace
open Json

def textMember (key value : Text) : List (Text × Json) :=
  if value = [] then [] else [(key, .string value)]

def wordMember (key : Text) (value : Nat) : List (Text × Json) :=
  if value = 0 then [] else [(key, .whole value)]

namespace Frame

/-- The members of a frame in the order of declaration. -/
def members (f : Frame) : List (Text × Json) :=
  textMember "funcname".toList f.funcname ++ wordMember "flnum".toList f.flnum ++
    textMember "line".toList f.line ++ textMember "filename".toList f.filename ++
    wordMember "lnum".toList f.lnum ++ textMember "text".toList f.text

def toJson (f : Frame) : Json :=
  sorted f.members

def shape : Shape Frame where
  name := "Frame".toList
  members :=
    [⟨"funcname".toList, fun v f => do return { f with funcname := ← v.toText }⟩,
      ⟨"flnum".toList, fun v f => do return { f with flnum := ← v.toWord }⟩,
      ⟨"line".toList, fun v f => do return { f with line := ← v.toText }⟩,
      ⟨"filename".toList, fun v f => do return { f with filename := ← v.toText }⟩,
      ⟨"lnum".toList, fun v f => do return { f with lnum := ← v.toWord }⟩,
      ⟨"text".toList, fun v f => do return { f with text := ← v.toText }⟩]
  lenient := true
  draft := empty

def ofJson (v : Json) : Except DecodeError Frame :=
  shape.decode v

end Frame

namespace Stacktrace

def toJson (s : Stacktrace) : Json :=
  .object [("stacks".toList, .array (s.frames.map Frame.toJson))]

/-- The JSON value with the members of each frame in the order of declaration. -/
def toDeclared (s : Stacktrace) : Json :=
  .object [("stacks".toList, .array (s.frames.map fun f => .object f.members))]

def shape : Shape Stacktrace where
  name := "Stacktrace".toList
  members := [⟨"stacks".toList, fun v _ => do return ⟨← v.toList Frame.ofJson⟩⟩]
  lenient := false
  draft := ⟨[]⟩

def ofJson (v : Json) : Except DecodeError Stacktrace :=
  shape.decode v

end Stacktrace

namespace History.ErrorRecord

def members (r : ErrorRecord) : List (Text × Json) :=
  [("throwpoint".toList, .string r.throwpoint), ("messages".toList, strings r.messages)]

def toJson (r : ErrorRecord) : Json :=
  sorted r.members

def toDeclared (r : ErrorRecord) : Json :=
  .object r.members

def shape : Shape ErrorRecord where
  name := "ErrorRecord".toList
  members :=
    [⟨"throwpoint".toList, fun v r => do return { r with throwpoint := ← v.toText }⟩,
      ⟨"messages".toList, fun v r => do return { r with messages := ← v.toList Json.toText }⟩]
  lenient := false
  draft := empty

def ofJson (v : Json) : Except DecodeError ErrorRecord :=
  shape.decode v

end History.ErrorRecord
end ScriptTrace
