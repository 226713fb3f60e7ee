import ScriptTrace.Fixture.FrontMatter
import ScriptTrace.Proofs.Text.Lines
import ScriptTrace.Proofs.Text.Marks

/-! Front matter and history, written together and parted again.
Only a line of its own closes the front matter, and the first one that can do so does. -/
namespace ScriptTrace.Text
variable {s w : Text} {sep : Char}

private theorem takeWhile_ne_eq_iff (hw : sep ∉ w) :
    s.takeWhile (· ≠ sep) = w ↔ w ++ [sep] <+: s ++ [sep] := by
  induction s generalizing w with
  | nil => cases w <;> simp
  | cons c s ih =>
    cases w with
    | nil =>
      by_cases hc : c = sep
      · simp [hc]
      · simp [hc, Ne.symm hc]
    | cons d w =>
      rw [List.mem_cons, not_or] at hw
      rw [List.cons_append, List.cons_append, List.cons_prefix_cons, ← ih hw.2, @eq_comm _ d c]
      by_cases hc : c = sep
      · simp [hc, hw.1]
      · simp [hc]

/-- A piece that is not the first one stands between two separators, when the last piece has one
behind it too. -/
theorem mem_tail_splitOn_iff (hw : sep ∉ w) :
    w ∈ (s.splitOn sep).tail ↔ sep :: (w ++ [sep]) <:+: s ++ [sep] := by
  induction s with
  | nil =>
    have hl : ¬ sep :: (w ++ [sep]) <:+: [sep] := fun h => by simpa using h.length_le
    simp [hl]
  | cons c s ih =>
    obtain ⟨first, others, hp⟩ := List.exists_cons_of_ne_nil (List.splitOn_ne_nil sep s)
    have hf : s.takeWhile (· ≠ sep) = first := by
      have h := head?_splitOn sep s
      rw [hp] at h
      exact (Option.some.inj h).symm
    rw [List.cons_append, List.infix_cons_iff, ← ih]
    by_cases hc : c = sep
    · subst hc
      rw [List.cons_prefix_cons, ← takeWhile_ne_eq_iff hw, hf, splitOn_cons_self, hp,
        List.tail_cons, List.tail_cons, List.mem_cons]
      simp [eq_comm]
    · rw [splitOn_cons_of_ne hc, List.tail_modifyHead, or_iff_right]
      exact fun h => hc (List.cons_prefix_cons.1 h).1.symm

end ScriptTrace.Text

namespace ScriptTrace.Fixture
open Text

/-- No line but the first could be taken for the closing mark. In front of the first line there is
only the line feed of the opening mark. -/
def Enclosed (yaml : Text) : Prop := mark ∉ (yaml.splitOn '\n').tail

def write (yaml history : Text) : Text := mark ++ '\n' :: (yaml ++ (divider ++ history))

def writeAlone (yaml : Text) : Text := mark ++ '\n' :: (yaml ++ '\n' :: mark)

section Split
variable {source rest yaml history : Text}

private theorem occurrences_divider_eq_zero_iff :
    occurrences divider (yaml ++ '\n' :: mark) = 0 ↔ Enclosed yaml := by
  have hn : '\n' ∉ mark := by decide
  have hd : divider = '\n' :: (mark ++ ['\n']) := by decide
  have ha : yaml ++ '\n' :: mark = (yaml ++ ['\n']) ++ mark := by simp
  rw [ha, occurrences_append_right (c := '\n') (by decide) hn, occurrences_eq_zero_iff, Enclosed,
    mem_tail_splitOn_iff hn, hd]

private theorem cutFirst?_divider_eq_some_iff :
    cutFirst? divider rest = some (yaml, history) ↔
      rest = yaml ++ (divider ++ history) ∧ Enclosed yaml := by
  have hd : divider.dropLast = '\n' :: mark := by decide
  rw [cutFirst?_eq_some_iff (by decide), hd, occurrences_divider_eq_zero_iff]

private theorem cutFirst?_divider_eq_none_iff :
    cutFirst? divider (yaml ++ '\n' :: mark) = none ↔ Enclosed yaml :=
  cutFirst?_eq_none_iff.trans occurrences_divider_eq_zero_iff

/-- What follows the opening mark is divided at a line of its own, or else at its own end. -/
private theorem divided_eq_some_iff :
    (match cutFirst? divider rest with
      | some parts => some parts
      | none => (('\n' :: mark).isSuffixOf? rest).map fun yaml => (yaml, [])) = some (yaml, history) ↔
    Enclosed yaml ∧
      (rest = yaml ++ (divider ++ history) ∨ history = [] ∧ rest = yaml ++ '\n' :: mark) := by
  cases hc : cutFirst? divider rest with
  | some parts =>
    refine ⟨?_, ?_⟩
    · rintro ⟨⟩
      obtain ⟨hr, he⟩ := cutFirst?_divider_eq_some_iff.1 hc
      exact ⟨he, .inl hr⟩
    · rintro ⟨he, hr | ⟨-, rfl⟩⟩
      · rw [cutFirst?_divider_eq_some_iff.2 ⟨hr, he⟩] at hc
        cases hc
        rfl
      · rw [cutFirst?_divider_eq_none_iff.2 he] at hc
        cases hc
  | none =>
    simp only [Option.map_eq_some_iff, List.isSuffixOf?_eq_some_iff_append_eq, Prod.mk.injEq]
    constructor
    · rintro ⟨_, rfl, rfl, rfl⟩
      exact ⟨cutFirst?_divider_eq_none_iff.1 hc, .inr ⟨rfl, rfl⟩⟩
    · rintro ⟨he, hr | ⟨rfl, rfl⟩⟩
      · rw [cutFirst?_divider_eq_some_iff.2 ⟨hr, he⟩] at hc
        cases hc
      · exact ⟨yaml, rfl, rfl, rfl⟩

/-- A source is parted if it was written from the parts, with or without a line feed at its end. -/
theorem split?_eq_some_iff :
    split? source = some (yaml, history) ↔ Enclosed yaml ∧
      (source = write yaml history ∨ history = [] ∧ source = writeAlone yaml) := by
  have hw : write yaml history = mark ++ ['\n'] ++ (yaml ++ (divider ++ history)) := by
    simp [write]
  have ha : writeAlone yaml = mark ++ ['\n'] ++ (yaml ++ '\n' :: mark) := by simp [writeAlone]
  rw [split?, hw, ha]
  cases hs : (mark ++ ['\n']).isPrefixOf? source with
  | none =>
    have hn (s : Text) : source ≠ mark ++ ['\n'] ++ s := by
      rintro rfl
      rw [isPrefixOf?_append] at hs
      cases hs
    simp only [hn, and_false, or_self, reduceCtorEq]
  | some rest =>
    rw [← List.append_eq_of_isPrefixOf?_eq_some hs, List.append_cancel_left_eq,
      List.append_cancel_left_eq]
    exact divided_eq_some_iff

end Split

/-- Front matter and history are parted exactly as they were written, whatever lines the history
has, and a source that was not written so is all history. -/
theorem split?_iff_written (source : Text) :
    (∀ yaml history, split? source = some (yaml, history) ↔ Enclosed yaml ∧
      (source = write yaml history ∨ history = [] ∧ source = writeAlone yaml)) ∧
    (∀ yaml history, split? source = some (yaml, history) → body source = history) ∧
    (split? source = none → body source = source) := by
  refine ⟨fun yaml history => split?_eq_some_iff, fun yaml history hs => ?_, fun hn => ?_⟩
  · rw [body, hs]
    rfl
  · rw [body, hn]
    rfl

example :
    split? "---\n---\n---\n---\nE1: x\n---\n".toList =
      some ("---".toList, "---\nE1: x\n---\n".toList) := by
  decide +kernel

end ScriptTrace.Fixture
