import ScriptTrace.Proofs.Throwpoint.Positions

/-! The links of a chain, read back from its canonical text.
The bracket at the end of each link keeps the dots of its name from those that part the links. -/
namespace ScriptTrace.Throwpoint
open Text

private theorem head?_ne_dot {c : Char} {s : Text} (h : ¬ chainMark <+: c :: s) :
    c = '.' → s.head? ≠ some '.' := by
  rintro rfl hs
  obtain ⟨s, rfl⟩ := List.head?_eq_some_iff.1 hs
  exact h ⟨s, rfl⟩

section Segments
variable {a b s : Text}

theorem segments_of_occurrences_eq_zero (h : occurrences chainMark s = 0) : segments s = [s] := by
  induction s with
  | nil => rfl
  | cons c s ih =>
    rw [occurrences_cons, Nat.add_eq_zero_iff, ite_eq_right_iff] at h
    have hc := head?_ne_dot fun hp => absurd (h.1 hp) Nat.one_ne_zero
    rw [segments_cons hc, ih h.2]
    rfl

/-- A pair of dots ends the segment before it, unless a dot in front makes another pair. -/
theorem segments_append_chainMark (h : occurrences chainMark a = 0) (hl : a.getLast? ≠ some '.') :
    segments (a ++ (chainMark ++ b)) = a :: segments b := by
  induction a with
  | nil => rfl
  | cons c a ih =>
    rw [occurrences_cons, Nat.add_eq_zero_iff, ite_eq_right_iff] at h
    have hc := head?_ne_dot fun hp => absurd (h.1 hp) Nat.one_ne_zero
    cases a with
    | nil =>
      have hdot : c = '.' → (chainMark ++ b).head? ≠ some '.' :=
        fun he => absurd (congrArg some he) hl
      rw [List.singleton_append, segments_cons hdot]
      rfl
    | cons d a =>
      rw [List.cons_append, segments_cons (by simpa using hc), ih h.2 (by simpa using hl)]
      rfl

end Segments

theorem display_eq_bracketed (link : Link) :
    link.display = bracketed link.body (decimal link.line) := rfl

/-- A link is read back from its text, whatever brackets its body has. -/
theorem parse_display {link : Link} (h : link.line < wordLimit) :
    Link.parse link.display = link := by
  rw [display_eq_bracketed, parse_bracketed _ (isDigits_decimal _), unsigned?_decimal h,
    Option.getD_some]

/-- A link that does not begin as a function chain is a position in a file. -/
theorem parse?_display_file {link : Link} (h : link.line < wordLimit)
    (hf : ¬ functionMark <+: link.body) : parse? link.display = some (.file link) := by
  have hs : functionMark.isPrefixOf? link.display = none :=
    isPrefixOf?_eq_none_iff.2 fun hp => hf ((prefix_bracketed_iff (by decide)).1 hp)
  have hp : isFilePosition link.display = true :=
    isFilePosition_iff.2 ⟨link.body, _, isDigits_decimal link.line, rfl⟩
  simp only [parse?, hs, hp, if_true, parse_display h]

theorem occurrences_display {mark : Text} {c : Char} (hm : mark.head? = some c)
    (hc : c.isDigit = false) (ho : '[' ∉ mark) (he : ']' ∉ mark) (link : Link) :
    occurrences mark link.display = occurrences mark link.body := by
  rw [display_eq_bracketed,
    occurrences_bracketed_of_isDigits hm hc ho he (isDigits_decimal link.line)]

/-- Links whose names have no pair of dots are the links of the chain that is written of them. -/
theorem splitLinks_join_display {links : List Link} (hne : links ≠ [])
    (h : ∀ link ∈ links, link.line < wordLimit ∧ ¬ chainMark <:+: link.body) :
    splitLinks (join chainMark (links.map Link.display)) = links := by
  induction links with
  | nil => exact absurd rfl hne
  | cons link links ih =>
    obtain ⟨hline, hbody⟩ := h link List.mem_cons_self
    have hmark : occurrences chainMark link.display = 0 := by
      rw [occurrences_display (c := '.') (by decide) (by decide) (by decide) (by decide)]
      exact occurrences_eq_zero_iff.2 hbody
    have hparse := parse_display hline
    cases links with
    | nil =>
      rw [List.map_singleton, join, List.intercalate_singleton, splitLinks,
        segments_of_occurrences_eq_zero hmark, List.map_singleton, hparse]
    | cons next rest =>
      have hlast : link.display.getLast? ≠ some '.' := by
        rw [Link.display, List.getLast?_concat]
        decide
      have hrest := ih (List.cons_ne_nil next rest) fun l hl => h l (List.mem_cons_of_mem link hl)
      rw [join, splitLinks, List.map_cons] at hrest
      rw [List.map_cons, List.map_cons, join, List.intercalate_cons_cons, List.append_assoc,
        splitLinks, segments_append_chainMark hmark hlast, List.map_cons, hparse, hrest]

end ScriptTrace.Throwpoint
