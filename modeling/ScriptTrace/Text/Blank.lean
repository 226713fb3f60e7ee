import ScriptTrace.Text.Basic

/-! White space and the trimming of it.
The blanks are the characters of the Unicode property White_Space. -/
namespace ScriptTrace.Text

/-- The code points with the property White_Space, as closed ranges. -/
def blankRanges : List (Nat × Nat) :=
  [(0x0009, 0x000D), (0x0020, 0x0020), (0x0085, 0x0085), (0x00A0, 0x00A0), (0x1680, 0x1680),
    (0x2000, 0x200A), (0x2028, 0x2029), (0x202F, 0x202F), (0x205F, 0x205F), (0x3000, 0x3000)]

def isBlank (c : Char) : Bool :=
  blankRanges.any fun (low, high) => low ≤ c.toNat && c.toNat ≤ high

def trimStart (s : Text) : Text :=
  s.dropWhile isBlank

/-- The text without its longest ending of characters that satisfy `p`. -/
def dropEndWhile (p : Char → Bool) (s : Text) : Text :=
  (s.reverse.dropWhile p).reverse

def trimEnd (s : Text) : Text :=
  dropEndWhile isBlank s

def trim (s : Text) : Text :=
  trimEnd (trimStart s)

def trimFeeds (s : Text) : Text :=
  dropEndWhile (· == '\n') (s.dropWhile (· == '\n'))

theorem isDigit_eq_false_of_isBlank {c : Char} (h : isBlank c = true) : c.isDigit = false := by
  rw [← Bool.not_eq_true, Char.isDigit_iff_toNat]
  simp only [isBlank, blankRanges, List.any_cons, List.any_nil, Bool.or_false, Bool.or_eq_true,
    Bool.and_eq_true, decide_eq_true_eq] at h
  have h0 : '0'.toNat = 48 := rfl
  have h9 : '9'.toNat = 57 := rfl
  omega

/-- Trimming cuts no further than the last character that stays. -/
theorem dropEndWhile_append {p : Char → Bool} {s tail : Text} {c : Char} (hc : p c = false)
    (ht : ∀ b ∈ tail, p b = true) : dropEndWhile p (s ++ c :: tail) = s ++ [c] := by
  have hr : ∀ b ∈ tail.reverse, p b = true := fun b hb => ht b (List.mem_reverse.1 hb)
  have he : (s ++ c :: tail).reverse = tail.reverse ++ c :: s.reverse := by simp
  rw [dropEndWhile, he, List.dropWhile_append_of_pos hr, List.dropWhile_cons_of_neg (by simp [hc])]
  simp

theorem trimEnd_append {s tail : Text} {c : Char} (hc : isBlank c = false)
    (ht : ∀ b ∈ tail, isBlank b = true) : trimEnd (s ++ c :: tail) = s ++ [c] :=
  dropEndWhile_append hc ht

/-- Exactly the line feeds around a text are trimmed. -/
theorem trimFeeds_replicate {s : Text} (hh : ∀ c ∈ s.head?, c ≠ '\n')
    (hl : ∀ c ∈ s.getLast?, c ≠ '\n') (before after : Nat) :
    trimFeeds (List.replicate before '\n' ++ (s ++ List.replicate after '\n')) = s := by
  rw [trimFeeds, List.dropWhile_append_of_pos (by simp)]
  rcases List.eq_nil_or_concat s with rfl | ⟨rest, c, rfl⟩
  · simp [dropEndWhile]
  · have hc : (c == '\n') = false := by simpa using hl c (by simp)
    have hs : (rest ++ c :: List.replicate after '\n').dropWhile (· == '\n') =
        rest ++ c :: List.replicate after '\n' := by
      cases rest with
      | nil => exact List.dropWhile_cons_of_neg (by simp [hc])
      | cons d rest => exact List.dropWhile_cons_of_neg (by simpa using hh d (by simp))
    rw [List.concat_eq_append, List.append_assoc, List.singleton_append, hs]
    exact dropEndWhile_append hc (by simp)

end ScriptTrace.Text
