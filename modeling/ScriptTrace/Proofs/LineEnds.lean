import ScriptTrace.Proofs.History.Extraction
import ScriptTrace.Proofs.Text.Lines
import ScriptTrace.Source.Index

/-! Texts whose lines end in a carriage return and a line feed.
Message histories and script sources are read from their lines, and the lines stay the same. -/
namespace ScriptTrace

namespace Text
variable {s : Text}

def withReturns (s : Text) : Text :=
  s.flatMap fun c => if c = '\n' then ['\r', '\n'] else [c]

/-- Every piece but the last one has a return more. -/
theorem splitOn_withReturns (s : Text) : ∃ front last, s.splitOn '\n' = front ++ [last] ∧
    (withReturns s).splitOn '\n' = front.map (· ++ ['\r']) ++ [last] := by
  induction s with
  | nil => exact ⟨[], [], rfl, rfl⟩
  | cons c s ih =>
    obtain ⟨front, last, hs, hr⟩ := ih
    by_cases hc : c = '\n'
    · subst hc
      refine ⟨[] :: front, last, ?_, ?_⟩
      · rw [splitOn_cons_self, hs, List.cons_append]
      · change (['\r'] ++ '\n' :: withReturns s).splitOn '\n' = _
        rw [List.splitOn_append_cons_self, hr]
        rfl
    · have hw : withReturns (c :: s) = c :: withReturns s := by simp [withReturns, hc]
      rw [hw, splitOn_cons_of_ne hc, splitOn_cons_of_ne hc, hs, hr]
      cases front with
      | nil => exact ⟨[], c :: last, rfl, rfl⟩
      | cons line front => exact ⟨(c :: line) :: front, last, rfl, rfl⟩

variable (h : '\r' ∉ s)
include h

/-- When the returns at the ends are dropped, the pieces are the same again. -/
theorem exists_splitOn_withReturns : ∃ front returned last, s.splitOn '\n' = front ++ [last] ∧
    (withReturns s).splitOn '\n' = returned ++ [last] ∧
    returned.map dropReturn = front.map dropReturn := by
  obtain ⟨front, last, hs, hr⟩ := splitOn_withReturns s
  refine ⟨front, _, last, hs, hr, ?_⟩
  rw [List.map_map]
  refine List.map_congr_left fun line hl => ?_
  have hc : '\r' ∉ line := fun hc =>
    h (mem_of_mem_splitOn (hs ▸ List.mem_append_left [last] hl) hc)
  rw [Function.comp_apply, dropReturn_concat, dropReturn_of_notMem hc]

/-- The returns before the line feeds are no part of the lines. -/
theorem lines_withReturns : lines (withReturns s) = lines s := by
  obtain ⟨front, returned, last, hs, hr, hd⟩ := exists_splitOn_withReturns h
  rw [lines, lines, hs, hr, closeLines_concat, closeLines_concat, hd]

end Text

namespace History
open Text
variable {history line : Text} (h : '\r' ∉ history)
include h

/-- The returns before the line feeds are no part of the lines of a history. -/
theorem historyLines_withReturns : historyLines (withReturns history) = historyLines history := by
  obtain ⟨front, returned, last, hs, hr, hd⟩ := exists_splitOn_withReturns h
  rw [historyLines, historyLines, hs, hr, List.map_append, List.map_append, hd]

private theorem extract_withReturns : extract (withReturns history) = extract history := by
  rw [extract_eq_blocks, extract_eq_blocks, historyLines_withReturns h]

private theorem return_notMem_historyLines (hl : line ∈ historyLines history) : '\r' ∉ line := by
  obtain ⟨piece, hp, rfl⟩ := List.mem_map.1 hl
  exact fun hc => h (mem_of_mem_splitOn hp ((dropEnd_isPrefix _ piece).subset hc))

private theorem return_notMem_message {r : ErrorRecord} (hr : r ∈ extract history) {message : Text}
    (hm : message ∈ r.messages) : '\r' ∉ message :=
  return_notMem_historyLines h (mem_historyLines_of_mem_messages hr hm)

end History

/-- A text without carriage returns is read as it is when each of its lines ends in one. -/
theorem extract_index_withReturns {text : Text} (h : '\r' ∉ text) :
    History.extract (Text.withReturns text) = History.extract text ∧
    (∀ r ∈ History.extract (Text.withReturns text), ∀ message ∈ r.messages,
      message.getLast? ≠ some '\r') ∧
    Source.index (Text.withReturns text) = Source.index text := by
  have he := History.extract_withReturns h
  refine ⟨he, fun r hr message hm hl => ?_, ?_⟩
  · exact History.return_notMem_message h (he ▸ hr) hm (List.mem_of_getLast? hl)
  · rw [Source.index, Source.index, Text.lines_withReturns h]

private def mixed : Text :=
  "Error detected while processing F:\nline 3:\nE1: x\n\nfu s:g()\nendf\nfu H()\n".toList

theorem extract_index_withReturns_mixed :
    '\r' ∉ mixed ∧
    History.extract (Text.withReturns mixed) = [⟨"F[3]".toList, ["E1: x".toList]⟩] ∧
    Source.index (Text.withReturns mixed) = .error (.unterminated "H".toList 7) := by
  have hr : '\r' ∉ mixed := by decide
  have h := extract_index_withReturns hr
  exact ⟨hr, h.1.trans (by decide +kernel), h.2.2.trans (by decide +kernel)⟩

end ScriptTrace
