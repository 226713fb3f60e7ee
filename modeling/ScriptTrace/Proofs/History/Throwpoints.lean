import ScriptTrace.Proofs.History.Extraction
import ScriptTrace.Proofs.History.LineShapes

/-! The throwpoints of the records in a message history.
Each is a place that one line gives, and behind it the digits that another line gives. -/
namespace ScriptTrace.History
open Text

private theorem feed_notMem_historyLines {history line : Text} (h : line ∈ historyLines history) :
    '\n' ∉ line := by
  obtain ⟨piece, hp, rfl⟩ := List.mem_map.1 h
  exact fun hf => notMem_of_mem_splitOn hp ((dropEnd_isPrefix _ piece).subset hf)

private theorem infix_of_classify_header {line place : Text}
    (h : LineKind.classify line = .header place) : place <:+: line := by
  cases LineKind.shape_of_classify h LineKind.noConfusion with
  | header hl => exact ⟨Throwpoint.headerMark, [':'], by rw [hl, List.append_assoc]⟩
  | bareHeader hl _ => exact ⟨Throwpoint.headerMark, [], by rw [hl, List.append_nil]⟩

theorem isDigits_of_classify_lineNumber {line digits : Text}
    (h : LineKind.classify line = .lineNumber digits) : isDigits digits = true := by
  cases LineKind.shape_of_classify h LineKind.noConfusion with
  | lineNumber _ _ hd _ => exact hd

/-- A record has the place of a header, which lies on one line, and digits behind it. -/
theorem throwpoint_of_mem_extract {history : Text} {r : ErrorRecord} (h : r ∈ extract history) :
    ∃ place digits, r.throwpoint = Throwpoint.bracketed place digits ∧
      isDigits digits = true ∧ '\n' ∉ place := by
  obtain ⟨i, place, ⟨j, _, hj, -⟩, digits, hi, -, rfl⟩ := (listing_extract history).mem_iff.1 h
  obtain ⟨header, hh, hc⟩ := Option.map_eq_some_iff.1 hj
  obtain ⟨number, -, hd⟩ := Option.map_eq_some_iff.1 hi
  refine ⟨place, digits, rfl, isDigits_of_classify_lineNumber hd, fun hf => ?_⟩
  exact feed_notMem_historyLines (List.mem_of_getElem? hh) ((infix_of_classify_header hc).subset hf)

end ScriptTrace.History
