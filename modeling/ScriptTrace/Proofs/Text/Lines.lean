import ScriptTrace.Proofs.Text.Cuts
import ScriptTrace.Text.Lines

/-! The pieces between separators, and the line ends that lines give up.
A piece has no separator, and its characters are characters of the text. -/
namespace ScriptTrace.Text
variable {sep c : Char} {s piece line : Text}

section Pieces

theorem splitOn_cons_self (sep : Char) (s : Text) :
    (sep :: s).splitOn sep = [] :: s.splitOn sep := by
  rw [List.splitOn_cons_eq_if_modifyHead, if_pos (beq_self_eq_true sep)]

theorem splitOn_cons_of_ne (hc : c ≠ sep) (s : Text) :
    (c :: s).splitOn sep = (s.splitOn sep).modifyHead (List.cons c) := by
  rw [List.splitOn_cons_eq_if_modifyHead, if_neg fun h => hc (eq_of_beq h)]

private theorem mem_splitOn_cons (h : piece ∈ (c :: s).splitOn sep) :
    piece = [] ∨ piece ∈ s.splitOn sep ∨ c ≠ sep ∧ ∃ first ∈ s.splitOn sep, piece = c :: first := by
  by_cases hc : c = sep
  · rw [hc, splitOn_cons_self] at h
    exact (List.mem_cons.1 h).imp_right Or.inl
  · obtain ⟨first, others, hp⟩ := List.exists_cons_of_ne_nil (List.splitOn_ne_nil sep s)
    rw [splitOn_cons_of_ne hc, hp, List.modifyHead_cons] at h
    rw [hp]
    rcases List.mem_cons.1 h with rfl | h
    · exact .inr (.inr ⟨hc, first, List.mem_cons_self, rfl⟩)
    · exact .inr (.inl (List.mem_cons_of_mem first h))

theorem notMem_of_mem_splitOn (h : piece ∈ s.splitOn sep) : sep ∉ piece := by
  induction s generalizing piece with
  | nil => simp_all
  | cons c s ih =>
    obtain rfl | h | ⟨hc, first, hf, rfl⟩ := mem_splitOn_cons h
    · exact List.not_mem_nil
    · exact ih h
    · rw [List.mem_cons, not_or]
      exact ⟨Ne.symm hc, ih hf⟩

theorem mem_of_mem_splitOn (h : piece ∈ s.splitOn sep) (hc : c ∈ piece) : c ∈ s := by
  induction s generalizing piece with
  | nil =>
    rw [List.splitOn_nil, List.mem_singleton] at h
    exact h ▸ hc
  | cons d s ih =>
    obtain rfl | h | ⟨-, first, hf, rfl⟩ := mem_splitOn_cons h
    · cases hc
    · exact List.mem_cons_of_mem d (ih h hc)
    · exact (List.mem_cons.1 hc).elim (· ▸ List.mem_cons_self) fun hc =>
        List.mem_cons_of_mem d (ih hf hc)

/-- The first piece ends at the first separator. -/
theorem head?_splitOn (sep : Char) (s : Text) :
    (s.splitOn sep).head? = some (s.takeWhile (· ≠ sep)) := by
  induction s with
  | nil => simp
  | cons c s ih =>
    by_cases hc : c = sep
    · simp [hc, splitOn_cons_self]
    · simp [splitOn_cons_of_ne hc, List.head?_modifyHead, ih, hc]

theorem join_concat (sep : Text) (front : List Text) (last : Text) :
    join sep (front ++ [last]) = front.flatMap (· ++ sep) ++ last := by
  induction front with
  | nil => simp [join]
  | cons part front ih =>
    rw [List.cons_append, join, List.intercalate_cons_of_ne_nil (List.concat_ne_nil last front),
      ← join, ih]
    simp

end Pieces

section LineEnds

theorem dropReturn_of_getLast?_ne (h : line.getLast? ≠ some '\r') : dropReturn line = line :=
  dropEnd_singleton_eq_iff.2 (.inr ⟨rfl, h⟩)

theorem dropReturn_of_notMem (h : '\r' ∉ line) : dropReturn line = line :=
  dropReturn_of_getLast?_ne fun hl => h (List.mem_of_getLast? hl)

theorem dropReturn_concat (line : Text) : dropReturn (line ++ ['\r']) = line :=
  dropEnd_append ['\r'] line

/-- Only a carriage return at the very end is dropped. -/
theorem dropReturn_append_cons (hc : c ≠ '\r') (a b : Text) :
    dropReturn (a ++ c :: b) = a ++ c :: dropReturn b := by
  rcases List.eq_nil_or_concat b with rfl | ⟨b, d, rfl⟩
  · rw [dropReturn_of_getLast?_ne (by simpa using hc)]
    rfl
  · have ha : a ++ c :: (b ++ [d]) = (a ++ c :: b) ++ [d] := by simp
    rw [List.concat_eq_append, ha]
    by_cases hd : d = '\r'
    · rw [hd, dropReturn_concat, dropReturn_concat]
    · have hl (s : Text) : (s ++ [d]).getLast? ≠ some '\r' := by simpa using hd
      rw [dropReturn_of_getLast?_ne (hl _), dropReturn_of_getLast?_ne (hl _), ha]

/-- Every piece but the last one gives up a carriage return. -/
theorem closeLines_concat (front : List Text) (last : Text) :
    closeLines (front ++ [last]) = front.map dropReturn ++ closeLines [last] := by
  induction front with
  | nil => rfl
  | cons line front ih =>
    obtain ⟨next, rest, hr⟩ := List.exists_cons_of_ne_nil (List.concat_ne_nil last front)
    calc
      closeLines (line :: front ++ [last]) = dropReturn line :: closeLines (front ++ [last]) := by
        rw [List.cons_append, hr]
        rfl
      _ = _ := by rw [ih, List.map_cons, List.cons_append]

end LineEnds
end ScriptTrace.Text
