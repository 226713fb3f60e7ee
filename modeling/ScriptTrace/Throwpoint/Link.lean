import ScriptTrace.Text.Digits

/-! Links, the segments of a throwpoint.
A link names a function or a file and a line in it. -/
namespace ScriptTrace

/-- One `body[line]` segment: a function name or a file path, and a line number that is zero when
the segment gives none. -/
structure Link where
  body : Text
  /-- Line in the body, zero when unknown. -/
  line : Nat
  deriving DecidableEq, Repr

namespace Link
open Text

/-- A segment that ends in no bracket is all body, and a number that is no word counts as zero. -/
def parse (token : Text) : Link :=
  match [']'].isSuffixOf? token with
  | none => ⟨token, 0⟩
  | some rest =>
    -- a path may contain brackets itself, so the last one counts
    match cutLast? ['['] rest with
    | none => ⟨token, 0⟩
    | some (body, number) => ⟨body, (unsigned? wordLimit number).getD 0⟩

def display (link : Link) : Text :=
  link.body ++ ['['] ++ decimal link.line ++ [']']

end Link
end ScriptTrace
