import Mathlib.Data.List.Basic
import ScriptTrace.Text.Basic

/-! Cuts of a text at a mark.
The first cut is the one of the library, and the parts and the mark give the text back. -/
namespace ScriptTrace.Text
variable {mark s before rest : Text}

/-- Nothing is left of a text that begins otherwise. -/
theorem isPrefixOf?_eq_none_iff {start : Text} : start.isPrefixOf? s = none ↔ ¬ start <+: s := by
  rw [← List.isPrefixOf_iff_prefix, ← List.isSome_isPrefixOf?_eq_isPrefixOf,
    Option.not_isSome_iff_eq_none]

theorem isPrefixOf?_append (start rest : Text) : start.isPrefixOf? (start ++ rest) = some rest :=
  List.isPrefixOf?_eq_some_iff_append_eq.2 rfl

theorem isSuffixOf?_append (front ending : Text) :
    ending.isSuffixOf? (front ++ ending) = some front :=
  List.isSuffixOf?_eq_some_iff_append_eq.2 rfl

theorem dropEnd_isPrefix (ending s : Text) : dropEnd ending s <+: s := by
  rw [dropEnd]
  cases h : ending.isSuffixOf? s with
  | none => exact List.prefix_rfl
  | some rest => exact ⟨ending, List.append_eq_of_isSuffixOf?_eq_some h⟩

theorem dropEnd_append (ending s : Text) : dropEnd ending (s ++ ending) = s := by
  rw [dropEnd, isSuffixOf?_append, Option.getD_some]

/-- One last character is dropped, if it is the one to drop. -/
theorem dropEnd_singleton_eq_iff {c : Char} :
    dropEnd [c] s = rest ↔ s = rest ++ [c] ∨ s = rest ∧ s.getLast? ≠ some c := by
  cases h : [c].isSuffixOf? s with
  | none =>
    have hn : ∀ t, s ≠ t ++ [c] := by
      rintro t rfl
      rw [isSuffixOf?_append] at h
      cases h
    have hl : s.getLast? ≠ some c := fun hl => (List.getLast?_eq_some_iff.1 hl).elim hn
    rw [dropEnd, h, Option.getD_none]
    simp only [hn, false_or, hl, ne_eq, not_false_eq_true, and_true]
  | some t =>
    obtain rfl := List.append_eq_of_isSuffixOf?_eq_some h
    rw [dropEnd_append, List.append_left_inj, List.getLast?_concat]
    simp

private theorem isPrefixOf?_eq_dropPrefix? (mark s : Text) :
    mark.isPrefixOf? s = s.dropPrefix? mark := by
  ext rest
  rw [List.isPrefixOf?_eq_some_iff_append_eq, List.dropPrefix?_eq_some_iff]
  constructor
  · rintro rfl
    exact ⟨mark, rfl, beq_self_eq_true mark⟩
  · rintro ⟨found, rfl, hf⟩
    rw [eq_of_beq hf]

private theorem dropInfix?_go_eq (mark s front : Text) :
    List.dropInfix?.go mark s front =
      (cutFirst? mark s).map fun (before, rest) => (front.reverse ++ before, rest) := by
  induction s generalizing front with
  | nil => cases mark <;> simp [List.dropInfix?.go, cutFirst?, List.isPrefixOf?]
  | cons c s ih =>
    rw [List.dropInfix?.go, cutFirst?, isPrefixOf?_eq_dropPrefix?]
    cases List.dropPrefix? (c :: s) mark with
    | none => simp [ih, Function.comp_def]
    | some rest => simp

/-- The library reverses what it has passed, and comes to the same cut. -/
theorem cutFirst?_eq_dropInfix? (mark s : Text) : cutFirst? mark s = s.dropInfix? mark := by
  rw [List.dropInfix?, dropInfix?_go_eq]
  simp

theorem cutFirst?_eq_append (h : cutFirst? mark s = some (before, rest)) :
    s = before ++ mark ++ rest := by
  rw [cutFirst?_eq_dropInfix?, List.dropInfix?_eq_some_iff] at h
  obtain ⟨⟨found, hs, hf⟩, -⟩ := h
  rw [hs, eq_of_beq hf]

theorem cutLast?_eq_append (h : cutLast? mark s = some (before, rest)) :
    s = before ++ mark ++ rest := by
  induction s generalizing before with
  | nil =>
    obtain ⟨r, hr, he⟩ := Option.map_eq_some_iff.1 h
    cases he
    simpa using (List.append_eq_of_isPrefixOf?_eq_some hr).symm
  | cons c s ih =>
    rw [cutLast?] at h
    split at h
    · next b r hb =>
      cases h
      simpa using ih hb
    · obtain ⟨r, hr, he⟩ := Option.map_eq_some_iff.1 h
      cases he
      simpa using (List.append_eq_of_isPrefixOf?_eq_some hr).symm

end ScriptTrace.Text
