import Mathlib.Data.List.DropRight
import Mathlib.Data.List.TakeWhile
import ScriptTrace.Proofs.Text.Marks
import ScriptTrace.Throwpoint.Normal

/-! What normalizing does to the marks before line numbers in a throwpoint.
Every pass takes one of them away and leaves the others for the passes after it. -/
namespace ScriptTrace.Throwpoint
open Text

/-- How many marks before a line number a text has, of either kind. -/
def markCount (s : Text) : Nat :=
  occurrences liveMark s + occurrences blockMark s

/-- A text has no marks if neither kind stands in it. -/
theorem markCount_eq_zero_iff {s : Text} :
    markCount s = 0 ↔ ¬ liveMark <:+: s ∧ ¬ blockMark <:+: s := by
  rw [markCount, Nat.add_eq_zero_iff, occurrences_eq_zero_iff, occurrences_eq_zero_iff]

section Headers
variable {s : Text}

theorem stripHeaders_eq_self (h : ¬ headerMark <+: s) : stripHeaders s = s := by
  rw [stripHeaders]
  split
  · next hr => exact absurd hr (Option.eq_none_iff_forall_ne_some.1 (isPrefixOf?_eq_none_iff.2 h) _)
  · rfl

theorem stripHeaders_append (s : Text) : stripHeaders (headerMark ++ s) = stripHeaders s := by
  rw [stripHeaders]
  split
  · next hr => rw [List.append_cancel_left ((List.append_eq_of_isPrefixOf?_eq_some hr).symm)]
  · next hn => exact absurd (List.prefix_append headerMark s) (isPrefixOf?_eq_none_iff.1 hn)

theorem not_header_stripHeaders (s : Text) : ¬ headerMark <+: stripHeaders s := by
  fun_induction stripHeaders s with
  | case1 s rest _ ih => exact ih
  | case2 s hn => exact isPrefixOf?_eq_none_iff.1 hn

theorem stripHeaders_isSuffix (s : Text) : stripHeaders s <:+ s := by
  fun_induction stripHeaders s with
  | case1 s rest hr ih => exact ih.trans ⟨headerMark, List.append_eq_of_isPrefixOf?_eq_some hr⟩
  | case2 s _ => exact List.suffix_rfl

end Headers

section Bracketed
variable {mark place line : Text}

theorem bracketed_eq (place line : Text) : bracketed place line = place ++ '[' :: (line ++ [']']) := by
  simp [bracketed]

theorem length_bracketed (place line : Text) :
    (bracketed place line).length = place.length + line.length + 2 := by
  simp [bracketed_eq]
  omega

theorem occurrences_bracketed (hm : mark ≠ []) (ho : '[' ∉ mark) (hc : ']' ∉ mark) :
    occurrences mark (bracketed place line) = occurrences mark place + occurrences mark line := by
  rw [bracketed_eq, occurrences_append_cons hm ho, occurrences_append_cons hm hc,
    occurrences_nil hm, Nat.add_zero]

theorem markCount_bracketed : markCount (bracketed place line) = markCount place + markCount line := by
  rw [markCount, occurrences_bracketed (by decide) (by decide) (by decide),
    occurrences_bracketed (by decide) (by decide) (by decide)]
  simp only [markCount]
  omega

/-- A mark without an opening bracket does not reach over the place. -/
theorem prefix_bracketed_iff (ho : '[' ∉ mark) : mark <+: bracketed place line ↔ mark <+: place := by
  rw [bracketed_eq]
  exact prefix_append_cons_iff ho

end Bracketed

section BlockNumber

/-- Around the number of a message block there is neither the beginning nor the end of a mark. -/
private theorem blockNumber_spec (s : Text) :
    ∃ before after, s = before ++ (blockNumber s ++ after) ∧ ':' ∉ before ∧ 'e' ∉ after := by
  have hs : s = trimEnd s ++ s.rtakeWhile isBlank := List.rdropWhile_append_rtakeWhile.symm
  have hb : 'e' ∉ s.rtakeWhile isBlank := fun h => absurd (List.mem_rtakeWhile_imp h) (by decide)
  have hd : ∃ colon, trimEnd s = dropEnd [':'] (trimEnd s) ++ colon ∧ 'e' ∉ colon := by
    rcases dropEnd_singleton_eq_iff.1 (Eq.refl (dropEnd [':'] (trimEnd s))) with h | ⟨h, -⟩
    · exact ⟨[':'], h, by decide⟩
    · exact ⟨[], by rw [← h, List.append_nil], List.not_mem_nil⟩
  obtain ⟨colon, hd, hc⟩ := hd
  refine ⟨(dropEnd [':'] (trimEnd s)).takeWhile (· == ' '), colon ++ s.rtakeWhile isBlank, ?_, ?_, ?_⟩
  · rw [← List.append_assoc, ← List.append_assoc, blockNumber, List.takeWhile_append_dropWhile, ← hd,
      ← hs]
  · exact fun h => absurd (List.mem_takeWhile_imp h) (by decide)
  · simp [hc, hb]

private theorem blockNumber_isInfix (s : Text) : blockNumber s <:+: s := by
  obtain ⟨before, after, hs, -⟩ := blockNumber_spec s
  exact ⟨before, after, by rw [List.append_assoc, ← hs]⟩

private theorem occurrences_blockNumber (s : Text) :
    occurrences blockMark (blockNumber s) = occurrences blockMark s := by
  obtain ⟨before, after, hs, hb, ha⟩ := blockNumber_spec s
  calc
    _ = occurrences blockMark (blockNumber s ++ after) := 
      (occurrences_append_right (c := 'e') (by decide) ha).symm
    _ = occurrences blockMark (before ++ (blockNumber s ++ after)) :=
      (occurrences_append_of_notMem (c := ':') (by decide) hb).symm
    _ = _ := by rw [← hs]

end BlockNumber

/-- What one pass does to a text whose headers are gone. -/
theorem normalize_cases (s : Text) :
    (∃ place line, cutFirst? liveMark (stripHeaders s) = some (place, line) ∧
      normalize s = bracketed place line) ∨
    (cutFirst? liveMark (stripHeaders s) = none ∧
      ∃ place rest, cutFirst? blockMark (stripHeaders s) = some (place, rest) ∧
        normalize s = bracketed place (blockNumber rest)) ∨
    (markCount (stripHeaders s) = 0 ∧ normalize s = stripHeaders s) := by
  rw [normalize]
  cases hl : cutFirst? liveMark (stripHeaders s) with
  | some parts => exact Or.inl ⟨parts.1, parts.2, rfl, rfl⟩
  | none =>
    cases hb : cutFirst? blockMark (stripHeaders s) with
    | some parts => exact Or.inr (Or.inl ⟨rfl, parts.1, parts.2, rfl, rfl⟩)
    | none =>
      refine Or.inr (Or.inr ⟨?_, rfl⟩)
      rw [markCount, cutFirst?_eq_none_iff.1 hl, cutFirst?_eq_none_iff.1 hb]

/-- A text without a header and without marks stays as it is. -/
theorem normalize_of_markCount_eq_zero {s : Text} (hs : ¬ headerMark <+: s) (h : markCount s = 0) :
    normalize s = s := by
  obtain ⟨hl, hb⟩ := Nat.add_eq_zero_iff.1 h
  rw [normalize, stripHeaders_eq_self hs]
  simp only [cutFirst?_eq_none_iff.2 hl, cutFirst?_eq_none_iff.2 hb]

/-- The only text that a pass leaves as long as it was is one without marks. -/
theorem normalize_eq_self_iff {s : Text} :
    normalize s = s ↔ ¬ headerMark <+: s ∧ markCount s = 0 := by
  constructor
  · intro h
    have hlen := (stripHeaders_isSuffix s).length_le
    rcases normalize_cases s with ⟨place, line, hc, he⟩ | ⟨-, place, rest, hc, he⟩ | ⟨hm, he⟩
    · have ht := length_of_cutFirst? hc
      have hn := (congrArg List.length (h.symm.trans he)).trans (length_bracketed place line)
      have hm : liveMark.length = 7 := by decide
      omega
    · have ht := length_of_cutFirst? hc
      have hn := (congrArg List.length (h.symm.trans he)).trans (length_bracketed place _)
      have hm : blockMark.length = 6 := by decide
      have hr := (blockNumber_isInfix rest).length_le
      omega
    · have hs : stripHeaders s = s := he.symm.trans h
      exact ⟨hs ▸ not_header_stripHeaders s, hs ▸ hm⟩
  · exact fun h => normalize_of_markCount_eq_zero h.1 h.2

theorem not_header_normalize (s : Text) : ¬ headerMark <+: normalize s := by
  have hs := not_header_stripHeaders s
  have hp {place mark rest : Text} (hc : cutFirst? mark (stripHeaders s) = some (place, rest)) :
      ¬ headerMark <+: place := by
    intro hh
    rw [cutFirst?_eq_append hc, List.append_assoc] at hs
    exact hs (hh.trans (List.prefix_append _ _))
  rcases normalize_cases s with ⟨place, line, hc, he⟩ | ⟨-, place, rest, hc, he⟩ | ⟨-, he⟩
  · rw [he, prefix_bracketed_iff (by decide)]
    exact hp hc
  · rw [he, prefix_bracketed_iff (by decide)]
    exact hp hc
  · rw [he]
    exact hs

private theorem markCount_live {s place line : Text}
    (hc : cutFirst? liveMark s = some (place, line)) :
    markCount (bracketed place line) + 1 = markCount s := by
  have hl : occurrences liveMark s = occurrences liveMark line + 1 :=
    occurrences_of_cutFirst? (c := ',') (by decide) (by decide) hc
  have hp : occurrences liveMark place = 0 := occurrences_before_cutFirst? (by decide) hc
  have hb : occurrences blockMark s = occurrences blockMark place + occurrences blockMark line := by
    rw [cutFirst?_eq_append hc, List.append_assoc,
      show liveMark = ',' :: " line ".toList by decide, List.cons_append,
      occurrences_append_cons (by decide) (by decide),
      occurrences_append_of_notMem (c := ':') (by decide) (by decide)]
  rw [markCount_bracketed, markCount, markCount, markCount]
  omega

private theorem markCount_block {s place rest : Text} (hn : cutFirst? liveMark s = none)
    (hc : cutFirst? blockMark s = some (place, rest)) :
    markCount (bracketed place (blockNumber rest)) + 1 = markCount s := by
  have hl := cutFirst?_eq_none_iff.1 hn
  have hb : occurrences blockMark s = occurrences blockMark rest + 1 :=
    occurrences_of_cutFirst? (c := ':') (by decide) (by decide) hc
  have hp : occurrences blockMark place = 0 := occurrences_before_cutFirst? (by decide) hc
  have hs := cutFirst?_eq_append hc
  have hlp : occurrences liveMark place = 0 :=
    occurrences_eq_zero_of_infix ⟨[], blockMark ++ rest, by simp [hs]⟩ hl
  have hlr : occurrences liveMark (blockNumber rest) = 0 :=
    occurrences_eq_zero_of_infix
      ((blockNumber_isInfix rest).trans ⟨place ++ blockMark, [], by simp [hs]⟩) hl
  have hbr := occurrences_blockNumber rest
  rw [markCount_bracketed, markCount, markCount, markCount]
  omega

/-- A pass takes away one mark, if there is any. -/
theorem markCount_normalize (s : Text) :
    markCount (normalize s) = markCount (stripHeaders s) - 1 := by
  rcases normalize_cases s with ⟨place, line, hc, he⟩ | ⟨hn, place, rest, hc, he⟩ | ⟨hm, he⟩
  · rw [he, ← markCount_live hc, Nat.add_sub_cancel]
  · rw [he, ← markCount_block hn hc, Nat.add_sub_cancel]
  · rw [he, hm]

/-- A second pass changes nothing exactly when the first one found at most one mark. -/
theorem normalize_normalize_iff (s : Text) :
    normalize (normalize s) = normalize s ↔ markCount (stripHeaders s) ≤ 1 := by
  rw [normalize_eq_self_iff, and_iff_right (not_header_normalize s), markCount_normalize]
  omega

theorem normalize_normalize_ne :
    normalize (normalize "a, line b, line c".toList) ≠ normalize "a, line b, line c".toList := by
  have once : normalize "a, line b, line c".toList = "a[b, line c]".toList := by
    rw [normalize, stripHeaders_eq_self (by decide)]
    decide
  have twice : normalize "a[b, line c]".toList = "a[b[c]]".toList := by
    rw [normalize, stripHeaders_eq_self (by decide)]
    decide
  rw [once, twice]
  decide

end ScriptTrace.Throwpoint
