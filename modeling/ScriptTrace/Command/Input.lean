import ScriptTrace.Text.Grapheme
import ScriptTrace.Text.Lines
import ScriptTrace.Text.Utf8

/-! The standard input as lines.
A line that is no text is kept as such, so that whoever comes to it can stop there. -/
namespace ScriptTrace.Command
open Text

def bytePieces : Utf8.Bytes → List (Utf8.Bytes × Bool)
  | [] => []
  | b :: rest =>
    if b = 0x0A then ([], true) :: bytePieces rest
    else
      match bytePieces rest with
      | [] => [([b], false)]
      | (piece, ended) :: more => (b :: piece, ended) :: more

/-- The lines of the input without their line ends, with `none` for one that is no text. -/
def inputLines (input : Utf8.Bytes) : List (Option Text) :=
  (bytePieces input).map fun (piece, ended) =>
    (Utf8.decode? piece).map fun line => if ended then dropReturn line else line

/-- The lines before the first that is no text, and whether there is such a line. -/
def goodLines : List (Option Text) → List Text × Bool
  | [] => ([], false)
  | none :: _ => ([], true)
  | some line :: rest => ((line :: (goodLines rest).1), (goodLines rest).2)

/-- A line that is being typed. -/
structure Typed where
  /-- What has been typed and not been taken back, the latest first. -/
  shown : Text
  /-- How many bytes a backspace takes back, the latest cluster first. -/
  sizes : List Nat
  deriving DecidableEq, Repr

namespace Typed

/-- One more than the greatest size that is remembered. Of a larger one the remainder counts. -/
def sizeLimit : Nat := 256

def empty : Typed := ⟨[], []⟩

def dropBytes : Nat → Text → Text
  | 0, s => s
  | _ + 1, [] => []
  | count + 1, c :: s => dropBytes (count + 1 - c.utf8Size) s

def press (t : Typed) (cluster : Text) : Typed :=
  if cluster = ['\x08'] then
    match t.sizes with
    | [] => t
    | size :: sizes => ⟨dropBytes size t.shown, sizes⟩
  else
    ⟨cluster.reverse ++ t.shown, Text.byteCount cluster % sizeLimit :: t.sizes⟩

end Typed

def typed (line : Text) : Text :=
  ((clusters line).foldl Typed.press .empty).shown.reverse

end ScriptTrace.Command
