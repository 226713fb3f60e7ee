import ScriptTrace.Command.Input
import ScriptTrace.Command.Paint
import ScriptTrace.Proofs.Text.Lines
import ScriptTrace.Proofs.Text.Utf8

/-! The lines of what is read and of what is written.
An input that was written for a text has the lines of the text, and an output has the texts that
were put on lines of their own. -/
namespace ScriptTrace.Command
open Text Utf8

/-- The bytes of pieces of a text, each with whether a line feed ended it. An empty last piece is
no piece of the bytes. -/
def encodePieces : List Text → List (Bytes × Bool)
  | [] => []
  | [last] => if last = [] then [] else [(encode last, false)]
  | line :: next :: rest => (encode line, true) :: encodePieces (next :: rest)

private def extendFirst (front : Bytes) : List (Bytes × Bool) → List (Bytes × Bool)
  | [] => [(front, false)]
  | (piece, ended) :: more => (front ++ piece, ended) :: more

private theorem bytePieces_append {front rest : Bytes} (hne : front ≠ []) (hf : 0x0A ∉ front) :
    bytePieces (front ++ rest) = extendFirst front (bytePieces rest) := by
  induction front with
  | nil => exact absurd rfl hne
  | cons b front ih =>
    rw [List.mem_cons, not_or] at hf
    rw [List.cons_append, bytePieces, if_neg (Ne.symm hf.1)]
    by_cases he : front = []
    · subst he
      rw [List.nil_append]
      cases bytePieces rest <;> rfl
    · rw [ih he hf.2]
      cases bytePieces rest <;> rfl

private theorem notMem_encodeChar {c : Char} (hc : c ≠ '\n') : 0x0A ∉ String.utf8EncodeChar c := by
  intro h
  have ht : c.toNat = '\n'.toNat := toNat_of_mem_encodeChar h (by decide)
  exact hc (Char.toNat_inj.1 ht)

private theorem encodePieces_modifyHead (c : Char) (ps : List Text) (h : ps ≠ []) :
    encodePieces (ps.modifyHead (List.cons c)) =
      extendFirst (String.utf8EncodeChar c) (encodePieces ps) := by
  rcases ps with _ | ⟨piece, _ | ⟨next, rest⟩⟩
  · exact absurd rfl h
  · by_cases hp : piece = []
    · subst hp
      simp [encodePieces, extendFirst, encode]
    · simp [encodePieces, extendFirst, encode, hp]
  · simp [encodePieces, extendFirst, encode]

/-- Line feeds divide the bytes of a text where they divide the text. -/
theorem bytePieces_encode (s : Text) : bytePieces (encode s) = encodePieces (s.splitOn '\n') := by
  induction s with
  | nil => rfl
  | cons c s ih =>
    have hp := List.splitOn_ne_nil '\n' s
    rw [encode, List.flatMap_cons, ← encode]
    by_cases hc : c = '\n'
    · obtain ⟨first, others, hs⟩ := List.exists_cons_of_ne_nil hp
      rw [hc, splitOn_cons_self]
      change ([], true) :: bytePieces (encode s) = _
      rw [ih, hs]
      rfl
    · rw [splitOn_cons_of_ne hc,
        bytePieces_append String.utf8EncodeChar_ne_nil (notMem_encodeChar hc), ih,
        encodePieces_modifyHead c _ hp]

/-- An input that was written for a text has the lines of the text. -/
theorem inputLines_encode (s : Text) : inputLines (encode s) = (lines s).map some := by
  rw [inputLines, bytePieces_encode, lines]
  induction s.splitOn '\n' with
  | nil => rfl
  | cons piece rest ih =>
    cases rest with
    | nil =>
      by_cases hp : piece = [] <;> simp [encodePieces, closeLines, decode?_encode, hp]
    | cons next rest =>
      rw [encodePieces, closeLines, List.map_cons, List.map_cons, ih]
      dsimp only
      rw [decode?_encode]
      rfl

theorem goodLines_map_some (given : List Text) : goodLines (given.map some) = (given, false) := by
  induction given with
  | nil => rfl
  | cons line rest ih => rw [List.map_cons, goodLines, ih]

private theorem exists_mem_of_mem_closeLines {ps : List Text} {line : Text}
    (h : line ∈ closeLines ps) : ∃ piece ∈ ps, line <+: piece := by
  induction ps with
  | nil => cases h
  | cons first ps ih =>
    cases ps with
    | nil =>
      rw [closeLines] at h
      split at h
      · cases h
      · exact ⟨line, h, List.prefix_rfl⟩
    | cons next rest =>
      rcases List.mem_cons.1 h with rfl | h
      · exact ⟨first, List.mem_cons_self, dropEnd_isPrefix _ first⟩
      · obtain ⟨piece, hp, hl⟩ := ih h
        exact ⟨piece, List.mem_cons_of_mem first hp, hl⟩

theorem mem_of_mem_lines {s line : Text} (h : line ∈ lines s) {c : Char} (hc : c ∈ line) :
    c ∈ s := by
  obtain ⟨piece, hp, hl⟩ := exists_mem_of_mem_closeLines h
  exact mem_of_mem_splitOn hp (hl.subset hc)

/-- What was put on a line of its own is the first line. -/
theorem lines_asLine_append {line : Text} (hn : '\n' ∉ line) (hr : '\r' ∉ line) (s : Text) :
    lines (asLine line ++ s) = line :: lines s := by
  obtain ⟨first, others, hs⟩ := List.exists_cons_of_ne_nil (List.splitOn_ne_nil '\n' s)
  have ha : asLine line ++ s = line ++ '\n' :: s := by simp [asLine]
  rw [lines, lines, ha, List.splitOn_append_cons_self, List.splitOn_eq_singleton hn, hs,
    List.singleton_append, closeLines, dropReturn_of_notMem hr]

/-- Texts without line ends are read back from the lines that they were put on. -/
theorem lines_flatMap_asLine {texts : List Text} (h : ∀ t ∈ texts, '\n' ∉ t ∧ '\r' ∉ t) :
    lines (texts.flatMap asLine) = texts := by
  induction texts with
  | nil => rfl
  | cons t rest ih =>
    obtain ⟨hn, hr⟩ := h t List.mem_cons_self
    rw [List.flatMap_cons, lines_asLine_append hn hr,
      ih fun u hu => h u (List.mem_cons_of_mem t hu)]

end ScriptTrace.Command
