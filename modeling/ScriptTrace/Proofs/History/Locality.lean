import ScriptTrace.Proofs.History.Extraction
import ScriptTrace.Proofs.Text.Lines

/-! Message histories cut in two above a line that no block goes on with.
Both parts keep their records, whatever the first one breaks off in. -/
namespace ScriptTrace.History
open Text

def firstLine (history : Text) : Text :=
  dropReturn (history.takeWhile (· ≠ '\n'))

/-- No block goes on with this line: it is neither a line number nor a message. -/
def Parts (line : Text) : Prop :=
  LineKind.classify line ≠ .errorCode ∧ ∀ digits, LineKind.classify line ≠ .lineNumber digits

private theorem parts_iff {line : Text} :
    Parts line ↔
      (∃ place, LineKind.classify line = .header place) ∨ LineKind.classify line = .other := by
  cases hk : LineKind.classify line <;> simp [Parts, hk]

/-- A line feed divides a history into the lines before it and the lines behind it. -/
theorem historyLines_append (a b : Text) :
    historyLines (a ++ '\n' :: b) = historyLines a ++ historyLines b := by
  simp only [historyLines, List.splitOn_append_cons_self, List.map_append]

private theorem historyLines_eq_cons (history : Text) :
    ∃ rest, historyLines history = firstLine history :: rest := by
  have hh : (historyLines history).head? = some (firstLine history) := by
    rw [historyLines, List.head?_map, head?_splitOn]
    rfl
  exact ⟨_, List.eq_cons_of_mem_head? hh⟩

private theorem blocks_cons_lineNumber {line digits place : Text} {ls : List Text}
    (hl : LineKind.classify line = .lineNumber digits) :
    blocks (some place) (line :: ls) =
      if ls.takeWhile isMessage = [] then blocks none ls
      else
        ⟨Throwpoint.bracketed place digits, ls.takeWhile isMessage⟩ ::
          blocks (some place) (ls.dropWhile isMessage) := by
  rw [blocks]
  exact hl

section Parted
variable {ls ms : List Text} {line : Text}

private theorem takeWhile_append_left (h : ms.takeWhile isMessage = []) :
    (ls ++ ms).takeWhile isMessage = ls.takeWhile isMessage := by
  induction ls with
  | nil => exact h
  | cons first ls ih => simp only [List.cons_append, List.takeWhile_cons, ih]

private theorem dropWhile_append_left (h : ms.takeWhile isMessage = []) :
    (ls ++ ms).dropWhile isMessage = ls.dropWhile isMessage ++ ms := by
  induction ls with
  | nil => exact dropWhile_isMessage_of_takeWhile h
  | cons first ls ih =>
    simp only [List.cons_append, List.dropWhile_cons, ih]
    split <;> rfl

variable (h : Parts line)
include h

private theorem Parts.takeWhile_eq_nil : (line :: ms).takeWhile isMessage = [] := by
  simp [isMessage, h.1]

private theorem Parts.blocks_cons (above : Option Text) :
    blocks above (line :: ms) = blocks (headerPlace? line) ms := by
  rw [blocks]
  intro digits _ hl _
  exact h.2 digits hl

private theorem Parts.blocks_append (above : Option Text) :
    blocks above (ls ++ line :: ms) = blocks above ls ++ blocks none (line :: ms) := by
  have hm : (line :: ms).takeWhile isMessage = [] := h.takeWhile_eq_nil
  fun_induction blocks above ls with
  | case1 above => rw [List.nil_append, List.nil_append, h.blocks_cons, h.blocks_cons]
  | case2 number ls digits place hl hw ih =>
    rw [List.cons_append, blocks_cons_lineNumber hl, takeWhile_append_left hm, if_pos hw, ih]
  | case3 number ls digits place hl hw ih =>
    -- The messages of this record end before the cut, so both parts see the same ones.
    rw [List.cons_append, blocks_cons_lineNumber hl, takeWhile_append_left hm,
      dropWhile_append_left hm, if_neg hw, ih]
    rfl
  | case4 above number ls hno ih =>
    rw [List.cons_append, blocks]
    · exact ih
    · exact hno

end Parted

/-- The records of a history cut above a line that no block goes on with are those of its parts. -/
theorem extract_append {a b : Text} (h : Parts (firstLine b)) :
    extract (a ++ '\n' :: b) = extract a ++ extract b := by
  obtain ⟨rest, hb⟩ := historyLines_eq_cons b
  calc
    _ = blocks none (historyLines a ++ historyLines b) := by
      rw [extract_eq_blocks, historyLines_append]
    _ = blocks none (historyLines a) ++ blocks none (historyLines b) := by
      rw [hb, h.blocks_append]
    _ = extract a ++ extract b := by
      rw [extract_eq_blocks, extract_eq_blocks]

/-- The first part breaks off behind a line number, and the second begins with a lone return. -/
theorem extract_append_broken_block :
    Parts (firstLine "\r\nE9: x\nError detected while processing /b.vim:\nline 4:\nE1: y".toList) ∧
    extract ("Error detected while processing function A:\nline    2:\nE121: x\nline    3:".toList ++
        '\n' :: "\r\nE9: x\nError detected while processing /b.vim:\nline 4:\nE1: y".toList) =
      [⟨"function A[2]".toList, ["E121: x".toList]⟩, ⟨"/b.vim[4]".toList, ["E1: y".toList]⟩] := by
  have hk : LineKind.classify
      (firstLine "\r\nE9: x\nError detected while processing /b.vim:\nline 4:\nE1: y".toList) =
      .other := by
    decide +kernel
  have hp := parts_iff.2 (Or.inr hk)
  refine ⟨hp, (extract_append hp).trans ?_⟩
  decide +kernel

end ScriptTrace.History
