/-! Text as a sequence of characters, and the ways to cut it at a mark.
Every cut returns the parts around the mark, so the parts and the mark give the text back. -/
namespace ScriptTrace

/-- A text is the list of its characters. -/
abbrev Text := List Char

namespace Text

def byteCount : Text → Nat
  | [] => 0
  | c :: s => c.utf8Size + byteCount s

/-- The text without one `ending`, or the text itself when it ends otherwise. -/
def dropEnd (ending s : Text) : Text :=
  (ending.isSuffixOf? s).getD s

/-- The text before and after the first occurrence of `mark`. -/
def cutFirst? (mark : Text) : Text → Option (Text × Text)
  | [] => (mark.isPrefixOf? []).map fun rest => ([], rest)
  | c :: s =>
    match mark.isPrefixOf? (c :: s) with
    | some rest => some ([], rest)
    | none => (cutFirst? mark s).map fun (before, rest) => (c :: before, rest)

/-- The text before and after the last occurrence of `mark`. -/
def cutLast? (mark : Text) : Text → Option (Text × Text)
  | [] => (mark.isPrefixOf? []).map fun rest => ([], rest)
  | c :: s =>
    match cutLast? mark s with
    | some (before, rest) => some (c :: before, rest)
    | none => (mark.isPrefixOf? (c :: s)).map fun rest => ([], rest)

def join (sep : Text) (parts : List Text) : Text :=
  sep.intercalate parts

theorem length_of_isPrefixOf? {start s rest : Text} (h : start.isPrefixOf? s = some rest) :
    s.length = start.length + rest.length := by
  induction start generalizing s with
  | nil =>
    cases h
    simp
  | cons a start ih =>
    cases s with
    | nil => cases h
    | cons b s =>
      change (if a == b then start.isPrefixOf? s else none) = some rest at h
      split at h
      · simp only [List.length_cons, ih h]
        omega
      · cases h

end Text
end ScriptTrace
