import ScriptTrace.Proofs.Throwpoint.Chains

/-! The segments of a chain, which are the one way to divide its text at pairs of dots from the left.
Without the last of them the others divide what is left of the text, so callers keep their names. -/
namespace ScriptTrace.Throwpoint
open Text

/-- Parts of a text between pairs of dots, each pair being the first one behind the pair before. -/
inductive Divides : List Text → Text → Prop
  | last {a : Text} (ha : ¬ chainMark <:+: a) : Divides [a] a
  /-- With a dot at its end, the part would make a pair one place earlier. -/
  | cons {a s : Text} {parts : List Text} (ha : ¬ chainMark <:+: a) (hl : a.getLast? ≠ some '.')
      (h : Divides parts s) : Divides (a :: parts) (a ++ (chainMark ++ s))

section Division
variable {s : Text} {parts : List Text} {c : Char}

/-- There is no other division than the segments. -/
theorem Divides.segments_eq (h : Divides parts s) : segments s = parts := by
  induction h with
  | last ha => exact segments_of_occurrences_eq_zero (occurrences_eq_zero_iff.2 ha)
  | cons ha hl _ ih => rw [segments_append_chainMark (occurrences_eq_zero_iff.2 ha) hl, ih]

private theorem not_infix_cons {a : Text} (ha : ¬ chainMark <:+: a)
    (hc : c = '.' → a.head? ≠ some '.') : ¬ chainMark <:+: c :: a := by
  rw [List.infix_cons_iff, not_or]
  refine ⟨?_, ha⟩
  intro hp
  obtain ⟨rfl, ht⟩ := List.cons_prefix_cons.1 hp
  obtain ⟨rest, rfl⟩ := ht
  exact hc rfl rfl

/-- A character in front goes into the first part, unless it makes a pair with the dot behind it. -/
theorem Divides.modifyHead (h : Divides parts s) (hc : c = '.' → s.head? ≠ some '.') :
    Divides (parts.modifyHead (List.cons c)) (c :: s) := by
  cases h with
  | last ha => exact .last (not_infix_cons ha hc)
  | @cons a s parts ha hl h =>
    have hd : c = '.' → a.head? ≠ some '.' := by
      intro he ha
      obtain ⟨rest, rfl⟩ := List.head?_eq_some_iff.1 ha
      exact hc he rfl
    have hlast : (c :: a).getLast? ≠ some '.' := by
      cases a with
      | nil => exact fun he => hc (Option.some.inj he) rfl
      | cons b a => rwa [List.getLast?_cons_cons]
    exact .cons (not_infix_cons ha hd) hlast h

theorem Divides.ne_nil (h : Divides parts s) : parts ≠ [] := by
  cases h <;> exact List.cons_ne_nil _ _

private theorem Divides.two_le_length_cons (h : Divides parts s) (a : Text) :
    2 ≤ (a :: parts).length := by
  rw [List.length_cons]
  exact Nat.succ_le_succ (List.length_pos_iff.2 h.ne_nil)

theorem divides_segments (s : Text) : Divides (segments s) s := by
  fun_induction segments s with
  | case1 => exact .last (by decide)
  | case2 s ih => exact .cons (a := []) (by decide) (by simp) ih
  | case3 c s _ hs => exact absurd hs (segments_ne_nil s)
  | case4 c s hc first others hs ih =>
    rw [hs] at ih
    refine ih.modifyHead ?_
    intro he hd
    obtain ⟨rest, rfl⟩ := List.head?_eq_some_iff.1 hd
    exact hc rest he rfl

/-- The pairs of dots divide a chain in one way. -/
theorem segments_eq_iff : segments s = parts ↔ Divides parts s :=
  ⟨fun h => h ▸ divides_segments s, Divides.segments_eq⟩

/-- Pairs of dots between the parts give the chain back. -/
theorem Divides.join_eq (h : Divides parts s) : join chainMark parts = s := by
  induction h with
  | last _ => exact List.intercalate_singleton
  | @cons a s parts _ _ h ih =>
    obtain ⟨next, rest, rfl⟩ := List.exists_cons_of_ne_nil h.ne_nil
    rw [join] at ih
    rw [join, List.intercalate_cons_cons, ih, List.append_assoc]

theorem Divides.not_infix (h : Divides parts s) {a : Text} (ha : a ∈ parts) :
    ¬ chainMark <:+: a := by
  induction h with
  | last hn =>
    rw [List.mem_singleton.1 ha]
    exact hn
  | cons hn _ _ ih =>
    rcases List.mem_cons.1 ha with rfl | ha
    · exact hn
    · exact ih ha

/-- Without its last part a division is one of the text before the last pair. -/
theorem Divides.exists_eq_append (h : Divides parts s) (hl : 2 ≤ parts.length) :
    ∃ front z t, parts = front ++ [z] ∧ Divides front t ∧ s = t ++ (chainMark ++ z) := by
  induction h with
  | last _ => exact absurd hl (by simp)
  | @cons a s parts ha hdot h ih =>
    cases h with
    | last _ => exact ⟨[a], s, a, rfl, .last ha, rfl⟩
    | @cons b s rest hb hdot' h =>
      obtain ⟨front, z, t, hp, ht, hs⟩ := ih (h.two_le_length_cons b)
      refine ⟨a :: front, z, a ++ (chainMark ++ t), congrArg (a :: ·) hp, .cons ha hdot ht, ?_⟩
      rw [hs, List.append_assoc, List.append_assoc]

/-- What stands behind a text and has no dot goes into its last part. -/
theorem Divides.append_of_notMem {front : List Text} {last w : Text} (h : Divides (front ++ [last]) s)
    (hw : '.' ∉ w) : Divides (front ++ [last ++ w]) (s ++ w) := by
  generalize hp : front ++ [last] = parts at h
  induction h generalizing front with
  | @last a ha =>
    obtain ⟨rfl, rfl⟩ := List.append_singleton_inj.1 (hp.trans (List.nil_append [a]).symm)
    apply Divides.last
    rw [← occurrences_eq_zero_iff] at ha ⊢
    rwa [occurrences_append_right (by decide) hw]
  | @cons a s parts ha hl h ih =>
    cases front with
    | nil => exact absurd (List.cons.inj hp).2.symm h.ne_nil
    | cons first front =>
      obtain ⟨rfl, ht⟩ := List.cons.inj hp
      rw [List.cons_append, List.append_assoc, List.append_assoc]
      exact .cons ha hl (ih ht)

/-- Only a pair of dots makes a second segment. -/
theorem two_le_length_segments_iff : 2 ≤ (segments s).length ↔ chainMark <:+: s := by
  have h := divides_segments s
  generalize segments s = parts at h
  cases h with
  | last ha => exact iff_of_false (by simp) ha
  | @cons a s parts _ _ h =>
    exact iff_of_true (h.two_le_length_cons a) ⟨a, s, List.append_assoc a chainMark s⟩

end Division

section Callers
variable {s w : Text}

/-- The chain of the caller and the segment that it lacks are the whole text, and it has the other
segments. -/
theorem exists_eq_callerChain_append (h : chainMark <:+: s) :
    ∃ parts z, s = callerChain s ++ (chainMark ++ z) ∧ segments s = parts ++ [z] ∧
      segments (callerChain s) = parts := by
  obtain ⟨parts, z, t, hp, ht, hs⟩ :=
    (divides_segments s).exists_eq_append (two_le_length_segments_iff.2 h)
  have hc : callerChain s = t := by
    rw [callerChain, hp, List.dropLast_concat, ht.join_eq]
  rw [hc]
  exact ⟨parts, z, hs, hp, ht.segments_eq⟩

theorem segments_append_of_notMem {first : Text} {others : List Text} (hw : '.' ∉ w)
    (hs : segments s = first :: others) : segments (w ++ s) = (w ++ first) :: others := by
  induction w with
  | nil => exact hs
  | cons c w ih =>
    rw [List.mem_cons, not_or] at hw
    rw [List.cons_append, segments_cons fun he => absurd he.symm hw.1, ih hw.2]
    rfl

theorem length_segments_append (hw : '.' ∉ w) (s : Text) :
    (segments (w ++ s)).length = (segments s).length := by
  obtain ⟨first, others, hs⟩ := List.exists_cons_of_ne_nil (segments_ne_nil s)
  rw [segments_append_of_notMem hw hs, hs]
  rfl

/-- What stands in front of a chain and has no dot stays in front of the chain of the caller. -/
theorem callerChain_append (hw : '.' ∉ w) (h : 2 ≤ (segments s).length) :
    callerChain (w ++ s) = w ++ callerChain s := by
  obtain ⟨first, others, hs⟩ := List.exists_cons_of_ne_nil (segments_ne_nil s)
  rw [hs] at h
  obtain ⟨next, rest, rfl⟩ := List.exists_cons_of_length_pos (Nat.lt_of_succ_lt_succ h)
  rw [callerChain, callerChain, segments_append_of_notMem hw hs, hs, List.dropLast_cons_cons,
    List.dropLast_cons_cons]
  cases (next :: rest).dropLast with
  | nil => simp [join]
  | cons a parts => simp [join]

end Callers

end ScriptTrace.Throwpoint
