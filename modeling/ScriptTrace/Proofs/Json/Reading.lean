import Mathlib.Data.List.TakeWhile
import ScriptTrace.Json.Reader
import ScriptTrace.Text.Blank

/-! White space is no JSON text.
The reader skips less than all white space, and no value begins with what it leaves. -/
namespace ScriptTrace
open Text

/-- Only white space is trimmed to nothing. -/
theorem Text.isBlank_of_trim_eq_nil {s : Text} (h : trim s = []) : ∀ c ∈ s, isBlank c = true := by
  have he : ∀ c ∈ trimStart s, isBlank c = true := by
    have hr := List.dropWhile_eq_nil_iff.1 (List.reverse_eq_nil_iff.1 h)
    exact fun c hc => hr c (List.mem_reverse.2 hc)
  have hs : trimStart s = [] := by
    by_contra hne
    have hh : isBlank ((trimStart s).head hne) = false := List.head_dropWhile_not isBlank _
    rw [he _ (List.head_mem hne)] at hh
    cases hh
  exact List.dropWhile_eq_nil_iff.1 hs

namespace Json

private theorem readValue_blank {c : Char} (h : isBlank c = true) (fuel room : Nat) (rest : Text) :
    readValue fuel room (c :: rest) = none := by
  have hne {d : Char} (hd : isBlank d = false) : c ≠ d := by
    rintro rfl
    rw [h] at hd
    cases hd
  cases fuel with
  | zero => rw [readValue]
  | succ fuel =>
    -- the first goal is the form for numbers, the others that no other form begins so
    rw [readValue]
    · rw [readNumber]
      · simp [readUnsigned, readDigits, isDigit_eq_false_of_isBlank h]
      · intro _ he
        exact hne (by decide) (List.cons.inj he).1
    all_goals
      intro _ he
      exact hne (by decide) (List.cons.inj he).1

theorem read?_blank {s : Text} (h : ∀ c ∈ s, isBlank c = true) : read? s = none := by
  have hs : skipSpace s ⊆ s := (List.dropWhile_sublist isSpace).subset
  rw [read?]
  generalize skipSpace s = t at hs
  cases t with
  | nil => rfl
  | cons c rest => simp [readValue_blank (h c (hs List.mem_cons_self))]

end Json
end ScriptTrace
