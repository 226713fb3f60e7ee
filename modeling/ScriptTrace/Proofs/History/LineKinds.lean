import ScriptTrace.History.Line
import ScriptTrace.Proofs.Text.Lines
import ScriptTrace.Proofs.Text.Runs

/-! What lines of a message history are taken for, told from how they are written.
A carriage return at its end does not keep a line from being a message. -/
namespace ScriptTrace.History.LineKind
open Text

section Number
variable {line digits : Text}

/-- Digits begin with no white space. -/
theorem isBlank_head_of_isDigits (hd : isDigits digits = true) {rest : Text} {c : Char}
    (hc : (digits ++ rest).head? = some c) : isBlank c = false := by
  cases digits with
  | nil => cases hd
  | cons d digits =>
    obtain rfl : d = c := Option.some.inj hc
    rw [← Bool.not_eq_true]
    intro hb
    exact notMem_of_isDigits hd (isDigit_eq_false_of_isBlank hb) List.mem_cons_self

/-- Exactly the white space between the mark and the digits is skipped. -/
theorem number?_padded {blanks : Text} (hne : blanks ≠ []) (hb : ∀ c ∈ blanks, isBlank c = true)
    (hd : isDigits digits = true) :
    number? (lineMark ++ (blanks ++ (digits ++ [':']))) = some digits := by
  have hrun : LongestRun isBlank (blanks ++ (digits ++ [':'])) blanks (digits ++ [':']) :=
    ⟨rfl, hb, fun _ => isBlank_head_of_isDigits hd⟩
  have ht : trimStart (blanks ++ (digits ++ [':'])) = digits ++ [':'] := hrun.eq.2
  have hl : (digits ++ [':']).length < (blanks ++ (digits ++ [':'])).length := by
    simp only [List.length_append]
    exact Nat.lt_add_of_pos_left (List.length_pos_iff.2 hne)
  simp only [number?, isPrefixOf?_append, ht, isSuffixOf?_append, hl, hd, decide_true, Bool.and_self,
    if_true]

/-- A line number is its mark, some white space, digits and a colon. -/
theorem number?_eq_some_iff :
    number? line = some digits ↔
      ∃ blanks, blanks ≠ [] ∧ (∀ c ∈ blanks, isBlank c = true) ∧ isDigits digits = true ∧
        line = lineMark ++ (blanks ++ (digits ++ [':'])) := by
  constructor
  · intro h
    rw [number?] at h
    split at h
    · cases h
    · next rest hr =>
      split at h
      · cases h
      · next before hb =>
        rw [Option.ite_none_right_eq_some, Bool.and_eq_true, decide_eq_true_eq] at h
        obtain ⟨⟨hl, hd⟩, he⟩ := h
        obtain rfl : before = digits := Option.some.inj he
        have hrest : rest.takeWhile isBlank ++ trimStart rest = rest :=
          List.takeWhile_append_dropWhile
        refine ⟨rest.takeWhile isBlank, ?_, fun c hc => List.mem_takeWhile_imp hc, hd, ?_⟩
        · intro hn
          rw [hn, List.nil_append] at hrest
          rw [hrest] at hl
          exact Nat.lt_irrefl _ hl
        · rw [List.append_eq_of_isSuffixOf?_eq_some hb, hrest]
          exact (List.append_eq_of_isPrefixOf?_eq_some hr).symm
  · rintro ⟨blanks, hne, hb, hd, rfl⟩
    exact number?_padded hne hb hd

theorem classify_of_number? (h : number? line = some digits) :
    classify line = .lineNumber digits := by
  have hm : lineMark <+: line := by
    obtain ⟨blanks, -, -, -, rfl⟩ := number?_eq_some_iff.1 h
    exact List.prefix_append _ _
  have hn : Throwpoint.headerMark.isPrefixOf? line = none := by
    refine isPrefixOf?_eq_none_iff.2 fun hh => ?_
    rcases List.prefix_or_prefix_of_prefix hm hh with hp | hp <;> exact absurd hp (by decide)
  simp only [classify, hn, h]

end Number

theorem classify_header (place : Text) :
    classify (Throwpoint.headerMark ++ (place ++ [':'])) = .header place := by
  simp only [classify, isPrefixOf?_append, dropEnd_append]

section ErrorCode
variable {line : Text}

/-- An error code is the letter E with digits and a colon behind it. -/
theorem isErrorCode_iff :
    isErrorCode line = true ↔
      ∃ digits rest, isDigits digits = true ∧ line = 'E' :: (digits ++ ':' :: rest) := by
  constructor
  · intro h
    unfold isErrorCode at h
    split at h
    · next rest =>
      rw [Bool.and_eq_true, beq_iff_eq, List.head?_eq_some_iff] at h
      obtain ⟨hne, more, hm⟩ := h
      refine ⟨rest.takeWhile Char.isDigit, more, ?_, ?_⟩
      · rw [isDigits, hne, List.all_takeWhile, Bool.and_self]
      · rw [← hm, List.takeWhile_append_dropWhile]
    · cases h
  · rintro ⟨digits, rest, hd, rfl⟩
    obtain ⟨hne, hd⟩ := isDigits_iff.1 hd
    have hrun : LongestRun Char.isDigit (digits ++ ':' :: rest) digits (':' :: rest) :=
      ⟨rfl, hd, by simp⟩
    simp [isErrorCode, hrun.eq, hne]

/-- A message begins with the letter E, a number and a colon, and no other line does. -/
theorem classify_eq_errorCode_iff :
    classify line = .errorCode ↔
      ∃ digits rest, isDigits digits = true ∧ line = 'E' :: (digits ++ ':' :: rest) := by
  rw [← isErrorCode_iff]
  constructor
  · intro h
    rw [classify] at h
    split at h
    · cases h
    · split at h
      · cases h
      · split at h
        · assumption
        · cases h
  · intro h
    obtain ⟨digits, rest, hd, rfl⟩ := isErrorCode_iff.1 h
    have hh : Throwpoint.headerMark.isPrefixOf? ('E' :: (digits ++ ':' :: rest)) = none := by
      cases digits with
      | nil => cases hd
      | cons d digits =>
        have hm : Throwpoint.headerMark = 'E' :: 'r' :: "ror detected while processing ".toList := by
          decide
        have hr : 'r' ∉ d :: digits := notMem_of_isDigits hd (by decide)
        rw [isPrefixOf?_eq_none_iff, hm, List.cons_append, List.cons_prefix_cons,
          List.cons_prefix_cons]
        rintro ⟨-, he, -⟩
        exact hr (he ▸ List.mem_cons_self)
    have hn : number? ('E' :: (digits ++ ':' :: rest)) = none := rfl
    simp only [classify, hh, hn, h, if_true]

/-- A carriage return at the end of a message does not change its kind. -/
theorem classify_dropReturn (h : classify line = .errorCode) :
    classify (dropReturn line) = .errorCode := by
  obtain ⟨digits, rest, hd, rfl⟩ := classify_eq_errorCode_iff.1 h
  have hr : dropReturn ('E' :: (digits ++ ':' :: rest)) = 'E' :: (digits ++ ':' :: dropReturn rest) :=
    dropReturn_append_cons (c := ':') (by decide) ('E' :: digits) rest
  exact classify_eq_errorCode_iff.2 ⟨digits, dropReturn rest, hd, hr⟩

end ErrorCode
end ScriptTrace.History.LineKind
