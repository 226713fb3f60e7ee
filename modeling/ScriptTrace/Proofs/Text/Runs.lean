import Mathlib.Data.List.TakeWhile
import ScriptTrace.Text.Basic

/-! The longest beginning of a text with characters of one class.
Every text has one, and no other. -/
namespace ScriptTrace.Text

/-- The longest beginning of a text with characters of one class only, and what follows it. -/
structure LongestRun (q : Char → Bool) (s run rest : Text) : Prop where
  append : s = run ++ rest
  all : ∀ c ∈ run, q c = true
  stops : ∀ c, rest.head? = some c → q c = false

namespace LongestRun
variable {q : Char → Bool} {s run rest : Text}

theorem takeWhile_dropWhile (q : Char → Bool) (s : Text) :
    LongestRun q s (s.takeWhile q) (s.dropWhile q) where
  append := List.takeWhile_append_dropWhile.symm
  all _ hc := List.mem_takeWhile_imp hc
  stops c hc := by
    have h := List.head?_dropWhile_not q s
    rwa [hc] at h

/-- A run with an end is the one that is taken from the front. -/
theorem eq (h : LongestRun q s run rest) : s.takeWhile q = run ∧ s.dropWhile q = rest := by
  obtain ⟨rfl, ha, hs⟩ := h
  rw [List.takeWhile_append_of_pos ha, List.dropWhile_append_of_pos ha]
  cases rest with
  | nil => simp
  | cons c rest =>
    have hc : ¬ q c = true := by
      rw [hs c rfl]
      exact Bool.false_ne_true
    rw [List.takeWhile_cons_of_neg hc, List.dropWhile_cons_of_neg hc, List.append_nil]
    exact ⟨rfl, rfl⟩

end LongestRun

end ScriptTrace.Text
