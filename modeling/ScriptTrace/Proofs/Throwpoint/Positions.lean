import ScriptTrace.Proofs.Throwpoint.LineMarks
import ScriptTrace.Proofs.Throwpoint.Links

/-! Throwpoints that end in a number between brackets, and what normalizing makes of them.
Their names stay what they were only if nothing of the text changes. -/
namespace ScriptTrace.Throwpoint
open Text

private theorem isSuffixOf?_bracketed (place line : Text) :
    [']'].isSuffixOf? (bracketed place line) = some (place ++ '[' :: line) :=
  List.isSuffixOf?_eq_some_iff_append_eq.2 (by simp [bracketed])

private theorem cutLast?_digits (place : Text) {digits : Text} (hd : isDigits digits = true) :
    cutLast? ['['] (place ++ '[' :: digits) = some (place, digits) :=
  cutLast?_append_cons (notMem_of_isDigits hd (by decide))

/-- The brackets around a number are the ones that a link is read from. -/
theorem parse_bracketed (place : Text) {digits : Text} (hd : isDigits digits = true) :
    Link.parse (bracketed place digits) = ⟨place, (unsigned? wordLimit digits).getD 0⟩ := by
  simp only [Link.parse, isSuffixOf?_bracketed, cutLast?_digits place hd]

/-- Digits in brackets are told from the place before them, even if that has brackets of its own. -/
theorem bracketed_inj {place place' digits digits' : Text} (hd : isDigits digits = true)
    (hd' : isDigits digits' = true) (h : bracketed place digits = bracketed place' digits') :
    place = place' ∧ digits = digits' := by
  have hp : place = place' := by
    have hl := congrArg (fun s => (Link.parse s).body) h
    simpa only [parse_bracketed _ hd, parse_bracketed _ hd'] using hl
  subst hp
  exact ⟨rfl, by simpa [bracketed] using h⟩

/-- A position in a file is any place with digits in brackets behind it. -/
theorem isFilePosition_iff {s : Text} :
    isFilePosition s = true ↔ ∃ place digits, isDigits digits = true ∧ s = bracketed place digits := by
  constructor
  · intro h
    rw [isFilePosition] at h
    split at h
    · cases h
    · next rest hr =>
      split at h
      · cases h
      · next place digits hc =>
        refine ⟨place, digits, h, ?_⟩
        rw [← List.append_eq_of_isSuffixOf?_eq_some hr, cutLast?_eq_append hc, bracketed]
  · rintro ⟨place, digits, hd, rfl⟩
    simpa only [isFilePosition, isSuffixOf?_bracketed, cutLast?_digits place hd] using hd

theorem parse?_function (chain : Text) :
    parse? (functionMark ++ chain) = some (.function (splitLinks chain)) := by
  simp only [parse?, isPrefixOf?_append]

section Bracketed
variable {place digits line : Text}

theorem parse?_bracketed_of_isDigits (hf : ¬ functionMark <+: place) (hd : isDigits digits = true) :
    (parse? (bracketed place digits)).map names = some (.inr place) := by
  have hs : functionMark.isPrefixOf? (bracketed place digits) = none :=
    isPrefixOf?_eq_none_iff.2 fun h => hf ((prefix_bracketed_iff (by decide)).1 h)
  simp only [parse?, hs, isFilePosition_iff.2 ⟨place, digits, hd, rfl⟩, parse_bracketed place hd,
    if_true, Option.map_some, names]

theorem parse?_bracketed_of_function (hf : functionMark <+: place) (line : Text) :
    ∃ links, parse? (bracketed place line) = some (.function links) := by
  have hb : functionMark <+: bracketed place line := (prefix_bracketed_iff (by decide)).2 hf
  obtain ⟨chain, hc⟩ := hb
  exact ⟨_, hc ▸ parse?_function chain⟩

theorem parse?_bracketed_ne_none (hd : isDigits digits = true) :
    parse? (bracketed place digits) ≠ none := by
  intro h
  by_cases hf : functionMark <+: place
  · obtain ⟨links, hl⟩ := parse?_bracketed_of_function hf digits
    rw [hl] at h
    cases h
  · have hp := parse?_bracketed_of_isDigits hf hd
    rw [h] at hp
    cases hp

/-- Two brackets at the end are no end of a position. -/
theorem parse?_bracketed_bracket (hf : ¬ functionMark <+: place) :
    parse? (bracketed place (line ++ [']'])) = none := by
  have hs : functionMark.isPrefixOf? (bracketed place (line ++ [']'])) = none :=
    isPrefixOf?_eq_none_iff.2 fun h => hf ((prefix_bracketed_iff (by decide)).1 h)
  have hp : ¬ isFilePosition (bracketed place (line ++ [']'])) = true := by
    rw [isFilePosition_iff]
    rintro ⟨place', digits, hd, he⟩
    rcases List.eq_nil_or_concat digits with rfl | ⟨rest, c, rfl⟩
    · cases hd
    · have hc : c = ']' := by
        rw [bracketed, bracketed, List.append_singleton_inj, List.concat_eq_append,
          ← List.append_assoc, ← List.append_assoc, List.append_singleton_inj] at he
        exact he.1.2.symm
      exact notMem_of_isDigits hd (c := ']') (by decide) (by simp [hc])
  simp only [parse?, hs, if_neg hp]

private theorem stripHeaders_bracketed :
    stripHeaders (bracketed place line) = bracketed (stripHeaders place) line := by
  fun_induction stripHeaders place with
  | case1 s rest hr ih =>
    have hb : bracketed s line = headerMark ++ bracketed rest line := by
      simp [← List.append_eq_of_isPrefixOf?_eq_some hr, bracketed]
    rw [hb, stripHeaders_append, ih]
  | case2 s hn =>
    exact stripHeaders_eq_self fun h =>
      isPrefixOf?_eq_none_iff.1 hn ((prefix_bracketed_iff (by decide)).1 h)

theorem occurrences_bracketed_of_isDigits {mark : Text} {c : Char} (hm : mark.head? = some c)
    (hc : c.isDigit = false) (ho : '[' ∉ mark) (he : ']' ∉ mark) (hd : isDigits digits = true) :
    occurrences mark (bracketed place digits) = occurrences mark place := by
  have hmem : c ∈ mark := List.mem_of_mem_head? hm
  have hz : occurrences mark digits = 0 :=
    occurrences_eq_zero_iff.2 fun h => notMem_of_isDigits hd hc (h.subset hmem)
  rw [occurrences_bracketed (List.ne_nil_of_mem hmem) ho he, hz, Nat.add_zero]

private theorem stripHeaders_of_function (hf : functionMark <+: place) :
    stripHeaders place = place := by
  refine stripHeaders_eq_self fun hh => ?_
  rcases List.prefix_or_prefix_of_prefix hf hh with h | h <;> exact absurd h (by decide)

/-- A place without its headers has other names. -/
private theorem stripHeaders_eq_self_of_names (hd : isDigits digits = true)
    (h : (parse? (bracketed (stripHeaders place) digits)).map names =
      (parse? (bracketed place digits)).map names) : stripHeaders place = place := by
  by_cases hp : functionMark <+: place
  · exact stripHeaders_of_function hp
  · rw [parse?_bracketed_of_isDigits hp hd] at h
    by_cases hq : functionMark <+: stripHeaders place
    · obtain ⟨links, hl⟩ := parse?_bracketed_of_function hq digits
      rw [hl] at h
      cases h
    · rw [parse?_bracketed_of_isDigits hq hd] at h
      exact Sum.inr.inj (Option.some.inj h)

/-- A bracket in the place of a live mark gives other names, or leaves no throwpoint at all. -/
private theorem names_bracketed_ne {before after : Text} (hd : isDigits digits = true)
    (hs : bracketed (stripHeaders place) digits = before ++ liveMark ++ (after ++ [']'])) :
    (parse? (bracketed before (after ++ [']']))).map names ≠
      (parse? (bracketed place digits)).map names := by
  intro h
  by_cases hb : functionMark <+: before
  · by_cases hp : functionMark <+: place
    · obtain ⟨chain, rfl⟩ := hb
      have hl : liveMark = ',' :: " line ".toList := by decide
      rw [stripHeaders_of_function hp, hl, List.append_assoc, List.append_assoc,
        List.cons_append] at hs
      rw [hs, bracketed_eq, List.append_assoc, parse?_function, parse?_function] at h
      exact names_function_ne (by decide) (by decide) (by decide) (Option.some.inj h).symm
    · obtain ⟨links, hl⟩ := parse?_bracketed_of_function hb (after ++ [']'])
      rw [hl, parse?_bracketed_of_isDigits hp hd] at h
      cases h
  · rw [parse?_bracketed_bracket hb, Option.map_none, eq_comm, Option.map_eq_none_iff] at h
    exact parse?_bracketed_ne_none hd h

section Feedless
variable (hd : isDigits digits = true) (hn : '\n' ∉ place)
include hd hn

theorem feed_notMem_bracketed : '\n' ∉ bracketed place digits := by
  simp [bracketed, hn, notMem_of_isDigits hd (c := '\n') (by decide)]

/-- The number stays behind its place, or there is a mark whose line takes in the bracket. -/
theorem normalize_bracketed_cases :
    (occurrences liveMark (stripHeaders place) = 0 ∧
      normalize (bracketed place digits) = bracketed (stripHeaders place) digits) ∨
    ∃ before after,
      bracketed (stripHeaders place) digits = before ++ liveMark ++ (after ++ [']']) ∧
        normalize (bracketed place digits) = bracketed before (after ++ [']']) := by
  have hm : occurrences liveMark (bracketed (stripHeaders place) digits) =
      occurrences liveMark (stripHeaders place) :=
    occurrences_bracketed_of_isDigits (c := ',') (by decide) (by decide) (by decide) (by decide) hd
  have hcases := normalize_cases (bracketed place digits)
  rw [stripHeaders_bracketed] at hcases
  rcases hcases with ⟨before, line, hc, he⟩ | ⟨-, before, rest, hc, -⟩ | ⟨h0, he⟩
  · have ht := cutFirst?_eq_append hc
    -- The mark ends in a blank, so the bracket at the end is one of the line behind it.
    rcases List.eq_nil_or_concat line with rfl | ⟨after, c, rfl⟩
    · have hl : liveMark = ", line".toList ++ [' '] := by decide
      rw [List.append_nil, bracketed, hl, ← List.append_assoc, List.append_singleton_inj] at ht
      exact absurd ht.2 (by decide)
    · rw [List.concat_eq_append] at ht he
      obtain rfl : ']' = c := by
        rw [bracketed, ← List.append_assoc, List.append_singleton_inj] at ht
        exact ht.2
      exact Or.inr ⟨before, after, ht, he⟩
  · have hp : '\n' ∉ stripHeaders place := fun h => hn ((stripHeaders_isSuffix place).subset h)
    refine absurd ?_ (feed_notMem_bracketed hd hp)
    rw [cutFirst?_eq_append hc]
    exact List.mem_append_left rest (List.mem_append_right before (by decide))
  · exact Or.inl ⟨hm ▸ Nat.eq_zero_of_add_eq_zero_right h0, he⟩

/-- Such a throwpoint is in normal form when it has no header and no mark of a live throwpoint. -/
theorem normalize_bracketed_eq_self_iff :
    normalize (bracketed place digits) = bracketed place digits ↔
      ¬ headerMark <+: bracketed place digits ∧ ¬ liveMark <:+: bracketed place digits := by
  have hb : occurrences blockMark (bracketed place digits) = 0 :=
    occurrences_eq_zero_iff.2 fun h =>
      feed_notMem_bracketed hd hn (h.subset (by decide))
  rw [normalize_eq_self_iff, markCount, hb, Nat.add_zero, occurrences_eq_zero_iff]

/-- A change of the text is a change of the names, or leaves no throwpoint at all. -/
theorem normalize_eq_self_of_names
    (h : (parse? (normalize (bracketed place digits))).map names =
      (parse? (bracketed place digits)).map names) :
    normalize (bracketed place digits) = bracketed place digits := by
  rcases normalize_bracketed_cases hd hn with ⟨-, he⟩ | ⟨before, after, hs, he⟩
  · rw [he] at h
    rw [he, stripHeaders_eq_self_of_names hd h]
  · rw [he] at h
    exact absurd h (names_bracketed_ne hd hs)

end Feedless
end Bracketed

end ScriptTrace.Throwpoint
