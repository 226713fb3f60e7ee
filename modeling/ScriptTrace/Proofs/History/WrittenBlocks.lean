import ScriptTrace.Proofs.History.Extraction
import ScriptTrace.Proofs.History.LineKinds
import ScriptTrace.Proofs.Throwpoint.Shapes

/-! Blocks of a message history as they are written, and the two readers of them.
The history is read line by line and a throwpoint in one piece, and both find the same place and line
unless the place itself looks like something to be taken away. -/
namespace ScriptTrace.History
open Text Throwpoint

/-- A block with one error. -/
structure Block where
  place : Text
  digits : Text
  /-- How many spaces there are before the digits besides the first. -/
  spaces : Nat
  message : Text
  feed_notMem_place : '\n' ∉ place
  isDigits_digits : isDigits digits = true
  isMessage_message : isMessage message = true
  feed_notMem_message : '\n' ∉ message

namespace Block
variable (b : Block)

def header : Text := headerMark ++ (b.place ++ [':'])

def number : Text :=
  LineKind.lineMark ++ (List.replicate (b.spaces + 1) ' ' ++ (b.digits ++ [':']))

def text : Text := join ['\n'] [b.header, b.number, b.message]

/-- The number of a block is read back from its line. -/
theorem classify_number : LineKind.classify b.number = .lineNumber b.digits :=
  LineKind.classify_of_number?
    (LineKind.number?_padded (by simp) (by simp [isBlank, blankRanges]) b.isDigits_digits)

private theorem historyLines_text :
    historyLines b.text = [b.header, b.number, dropReturn b.message] := by
  have hm : '\n' ∉ headerMark := by decide
  have hl : '\n' ∉ LineKind.lineMark := by decide
  have hd : '\n' ∉ b.digits := notMem_of_isDigits b.isDigits_digits (by decide)
  have hh : '\n' ∉ b.header := by simp [header, hm, b.feed_notMem_place]
  have hn : '\n' ∉ b.number := by simp [number, hl, hd]
  have hf : ∀ line ∈ [b.header, b.number, b.message], '\n' ∉ line := by
    simp [hh, hn, b.feed_notMem_message]
  have hp : b.text.splitOn '\n' = [b.header, b.number, b.message] :=
    List.splitOn_intercalate '\n' hf (List.cons_ne_nil _ _)
  -- The first two lines end in a colon, so they have no carriage return to lose.
  have hr (s : Text) : dropReturn (s ++ [':']) = s ++ [':'] :=
    dropReturn_of_getLast?_ne (by simp)
  have hrh : dropReturn b.header = b.header := by
    rw [header, ← List.append_assoc, hr]
  have hrn : dropReturn b.number = b.number := by
    rw [number, ← List.append_assoc, ← List.append_assoc, hr]
  rw [historyLines, hp, List.map_cons, List.map_cons, List.map_singleton, hrh, hrn]

/-- Read line by line, the block has one record, with the digits behind the place. -/
theorem extract_text :
    extract b.text = [⟨bracketed b.place b.digits, [dropReturn b.message]⟩] := by
  have hm : isMessage (dropReturn b.message) = true :=
    isMessage_iff.2 (LineKind.classify_dropReturn (isMessage_iff.1 b.isMessage_message))
  rw [extract_eq_blocks, historyLines_text]
  simp [blocks, headerPlace?, header, LineKind.classify_header, b.classify_number, hm]

/-- In one piece, the first two lines are a throwpoint in the shape of a block behind a header. -/
theorem header_append_number :
    b.header ++ '\n' :: b.number =
      headed 1 ((Shape.block (b.spaces + 1) [] (by simp)).write b.place b.digits) := by
  have hb : blockMark = ':' :: '\n' :: LineKind.lineMark := by decide
  simp [header, number, headed, Shape.write, hb]

private theorem markCount_place (h : ¬ liveMark <:+: b.place) : markCount b.place = 0 :=
  markCount_eq_zero_iff.2 ⟨h, fun hb => b.feed_notMem_place (hb.subset (by decide))⟩

private theorem normalize_block (hh : ¬ headerMark <+: b.place) (hl : ¬ liveMark <:+: b.place) :
    normalize (b.header ++ '\n' :: b.number) = bracketed b.place b.digits := by
  rw [header_append_number, normalize_headed]
  exact normalize_write (b.markCount_place hl) hh b.isDigits_digits _

/-- A cut at a live mark would keep the line feed between the two lines. -/
theorem not_live_of_normalize (hh : ¬ headerMark <+: b.place)
    (h : normalize (b.header ++ '\n' :: b.number) = bracketed b.place b.digits) :
    ¬ liveMark <:+: b.place := by
  rw [header_append_number, normalize_headed, Shape.write] at h
  generalize hr : List.replicate (b.spaces + 1) ' ' ++ (b.digits ++ [':']) = rest at h
  have hs : stripHeaders (b.place ++ (blockMark ++ rest)) = b.place ++ (blockMark ++ rest) :=
    stripHeaders_append_cons hh (c := ':') (by decide) _
  have hp : b.place <:+: b.place ++ (blockMark ++ rest) := (List.prefix_append _ _).isInfix
  have hcases := normalize_cases (b.place ++ (blockMark ++ rest))
  rw [hs] at hcases
  rcases hcases with ⟨before, line, hc, he⟩ | ⟨hn, -⟩ | ⟨hz, -⟩
  · have hf : '\n' ∈ before ++ liveMark ++ line := by
      rw [← cutFirst?_eq_append hc]
      exact List.mem_append_right _ (List.mem_append_left _ (by decide))
    have hl : '\n' ∉ liveMark := by decide
    refine absurd ?_ (feed_notMem_bracketed b.isDigits_digits b.feed_notMem_place)
    rw [← h, he, bracketed]
    simpa [hl] using hf
  · exact fun hl => occurrences_eq_zero_iff.1 (cutFirst?_eq_none_iff.1 hn) (hl.trans hp)
  · exact fun hl => (markCount_eq_zero_iff.1 hz).1 (hl.trans hp)

end Block

/-- The only record of a block has the place with the digits in brackets behind it. Normalizing the
first two lines of the block leads there too, exactly when the place neither begins with a header nor
has the mark of a live throwpoint. -/
theorem extract_block_iff (b : Block) :
    extract b.text = [⟨bracketed b.place b.digits, [dropReturn b.message]⟩] ∧
    (normalize (b.header ++ '\n' :: b.number) = bracketed b.place b.digits ↔
      ¬ headerMark <+: b.place ∧ ¬ liveMark <:+: b.place) := by
  refine ⟨b.extract_text, ?_, fun h => b.normalize_block h.1 h.2⟩
  intro h
  have hh : ¬ headerMark <+: b.place := by
    intro hp
    apply not_header_normalize (b.header ++ '\n' :: b.number)
    rw [h]
    exact (prefix_bracketed_iff (by decide)).2 hp
  exact ⟨hh, b.not_live_of_normalize hh h⟩

private def oddPlace : Block where
  place := "function é[1]..:::".toList
  digits := "007".toList
  spaces := 3
  message := "E1: x\r".toList
  feed_notMem_place := by decide
  isDigits_digits := by decide
  isMessage_message := by decide
  feed_notMem_message := by decide

theorem extract_block_iff_odd_place :
    oddPlace.text =
      "Error detected while processing function é[1]..::::\nline    007:\nE1: x\r".toList ∧
    extract oddPlace.text = [⟨"function é[1]..:::[007]".toList, ["E1: x".toList]⟩] ∧
    normalize "Error detected while processing function é[1]..::::\nline    007:".toList =
      "function é[1]..:::[007]".toList := by
  obtain ⟨he, hn⟩ := extract_block_iff oddPlace
  have hp : bracketed oddPlace.place oddPlace.digits = "function é[1]..:::[007]".toList := by decide
  have hm : dropReturn oddPlace.message = "E1: x".toList := by decide
  have ht : oddPlace.header ++ '\n' :: oddPlace.number =
      "Error detected while processing function é[1]..::::\nline    007:".toList := by
    decide +kernel
  rw [hp, hm] at he
  rw [hp, ht] at hn
  exact ⟨by decide +kernel, he, hn.2 (by decide +kernel)⟩

end ScriptTrace.History
