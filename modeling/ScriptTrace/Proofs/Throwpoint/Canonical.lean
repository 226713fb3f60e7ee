import ScriptTrace.Proofs.Throwpoint.Segments

/-! The throwpoints that have a canonical text, which are the ones that texts are read as.
A malformed segment loses its number when it is read. The link that is left of it is written with the
number zero, and read back as it is. -/
namespace ScriptTrace.Throwpoint
open Text

/-- The lines are words, and no name makes a pair of dots or a chain of its own. -/
def Canonical : Throwpoint → Prop
  | function links =>
    links ≠ [] ∧ ∀ link ∈ links, link.line < wordLimit ∧ ¬ chainMark <:+: link.body
  | file link => link.line < wordLimit ∧ ¬ functionMark <+: link.body

/-- A canonical throwpoint is read back from its text. -/
theorem parse?_display_of_canonical {t : Throwpoint} (h : t.Canonical) :
    parse? t.display = some t := by
  cases t with
  | function links =>
    have hl : splitLinks (join chainMark (links.map Link.display)) = links :=
      splitLinks_join_display h.1 h.2
    rw [display, parse?_function, hl]
  | file link => exact parse?_display_file h.1 h.2

section Reading
variable {s : Text} {t : Throwpoint} {limit n : Nat}

private theorem lt_of_unsigned? (h : unsigned? limit s = some n) : n < limit := by
  unfold unsigned? at h
  split at h <;> exact (bareNumber?_eq_some_iff.1 h).2.2

theorem parse_line_lt (token : Text) : (Link.parse token).line < wordLimit := by
  have hzero : 0 < wordLimit := by decide
  rw [Link.parse]
  split
  · exact hzero
  · split
    · exact hzero
    · next number _ =>
      cases hn : unsigned? wordLimit number with
      | none => exact hzero
      | some n => exact lt_of_unsigned? hn

theorem parse_body_isPrefix (token : Text) : (Link.parse token).body <+: token := by
  rcases parse_body_cases token with he | ⟨inner, he, -⟩
  · rw [he]
  · exact ⟨_, he.symm⟩

/-- The dots divide a chain into canonical links, in which a line that is no word is zero. -/
theorem canonical_splitLinks (chain : Text) : (function (splitLinks chain)).Canonical := by
  have hd := divides_segments chain
  refine ⟨fun hn => hd.ne_nil (List.map_eq_nil_iff.1 hn), ?_⟩
  intro link hl
  obtain ⟨token, ht, rfl⟩ := List.mem_map.1 hl
  refine ⟨parse_line_lt token, ?_⟩
  intro hp
  exact hd.not_infix ht (hp.trans (parse_body_isPrefix token).isInfix)

/-- Whatever is parsed is canonical. -/
theorem canonical_of_parse? (h : parse? s = some t) : t.Canonical := by
  rw [parse?] at h
  split at h
  · next chain _ =>
    cases h
    exact canonical_splitLinks chain
  · next hn =>
    split at h
    · cases h
      refine ⟨parse_line_lt s, ?_⟩
      intro hf
      exact isPrefixOf?_eq_none_iff.1 hn (hf.trans (parse_body_isPrefix s))
    · cases h

end Reading

theorem Canonical.links_ne_nil {t : Throwpoint} (h : t.Canonical) : t.links ≠ [] := by
  cases t with
  | function links => exact h.1
  | file link => exact List.cons_ne_nil link []

/-- The throwpoints that texts are read as are the canonical ones, each of which has a link, and
they are the ones that are read back from their own text. -/
theorem canonical_iff_parse? (t : Throwpoint) :
    (t.Canonical ↔ ∃ s, parse? s = some t) ∧ (t.Canonical ↔ parse? t.display = some t) ∧
      (t.Canonical → t.links ≠ []) := by
  refine ⟨⟨?_, ?_⟩, ⟨parse?_display_of_canonical, canonical_of_parse?⟩, Canonical.links_ne_nil⟩
  · intro h
    exact ⟨t.display, parse?_display_of_canonical h⟩
  · rintro ⟨s, hs⟩
    exact canonical_of_parse? hs

example : (parse? "function a[1]].[+7]...b[x]..c]..[99999999999999999999]".toList).map display =
    some "function a[1]].[7]...b[0]..c][0]..[0]".toList := by
  decide +kernel

end ScriptTrace.Throwpoint
