import Mathlib.Data.List.Infix
import ScriptTrace.Proofs.Text.Cuts

/-! How often a mark stands in a text.
A mark that can overlap neither itself nor its neighbours is counted on each side of a cut. -/
namespace ScriptTrace.Text
variable {mark a b s w : Text} {c : Char}

def occurrences (mark s : Text) : Nat :=
  s.tails.countP fun t => decide (mark <+: t)

theorem occurrences_cons :
    occurrences mark (c :: s) = (if mark <+: c :: s then 1 else 0) + occurrences mark s := by
  simp only [occurrences, List.tails_cons, List.countP_cons, decide_eq_true_eq]
  exact Nat.add_comm _ _

theorem occurrences_nil (hm : mark ≠ []) : occurrences mark [] = 0 := by
  simp [occurrences, hm]

theorem occurrences_eq_zero_iff : occurrences mark s = 0 ↔ ¬ mark <:+: s := by
  simp only [occurrences, List.countP_eq_zero, List.mem_tails, decide_eq_true_eq,
    List.infix_iff_prefix_suffix, not_exists, not_and]
  exact ⟨fun h t hp hs => h t hs hp, fun h t hs hp => h t hp hs⟩

theorem occurrences_eq_zero_of_infix (h : a <:+: s) (hs : occurrences mark s = 0) :
    occurrences mark a = 0 :=
  occurrences_eq_zero_iff.2 fun ha => occurrences_eq_zero_iff.1 hs (ha.trans h)

theorem prefix_append_iff :
    mark <+: a ++ b ↔ mark <+: a ∨ ∃ t, t <+: b ∧ mark = a ++ t := by
  constructor
  · intro h
    refine (List.prefix_or_prefix_of_prefix h (List.prefix_append a b)).imp_right ?_
    rintro ⟨t, rfl⟩
    exact ⟨t, (List.prefix_append_right_inj a).1 h, rfl⟩
  · rintro (h | ⟨t, h, rfl⟩)
    · exact h.trans (List.prefix_append a b)
    · exact (List.prefix_append_right_inj a).2 h

/-- A mark does not reach over a character that it has not. -/
theorem prefix_append_cons_iff (hc : c ∉ mark) : mark <+: a ++ c :: b ↔ mark <+: a := by
  rw [prefix_append_iff, or_iff_left_of_imp]
  rintro ⟨t, ht, rfl⟩
  rcases List.prefix_cons_iff.1 ht with rfl | ⟨u, rfl, -⟩
  · simp
  · exact absurd (List.mem_append_right a List.mem_cons_self) hc

/-- A mark does not end in a text that has not its last character. -/
theorem prefix_append_right_iff (hm : mark.getLast? = some c) (hw : c ∉ w) :
    mark <+: s ++ w ↔ mark <+: s := by
  rw [prefix_append_iff, or_iff_left_of_imp]
  rintro ⟨t, ht, rfl⟩
  rcases List.eq_nil_or_concat t with rfl | ⟨u, d, rfl⟩
  · simp
  · obtain rfl : d = c := by simpa using hm
    exact absurd (ht.subset (by simp)) hw

/-- The mark begins nowhere in `w` when its first character is not there. -/
theorem occurrences_append_of_notMem (hm : mark.head? = some c) (hw : c ∉ w) :
    occurrences mark (w ++ s) = occurrences mark s := by
  obtain ⟨rest, rfl⟩ := List.head?_eq_some_iff.1 hm
  induction w with
  | nil => rfl
  | cons d w ih =>
    have hd : c ≠ d := fun h => hw (h ▸ List.mem_cons_self)
    rw [List.cons_append, occurrences_cons, if_neg, Nat.zero_add,
      ih fun h => hw (List.mem_cons_of_mem d h)]
    exact fun h => hd (List.cons_prefix_cons.1 h).1

/-- The mark ends nowhere in `w` when its last character is not there. -/
theorem occurrences_append_right (hm : mark.getLast? = some c) (hw : c ∉ w) :
    occurrences mark (s ++ w) = occurrences mark s := by
  induction s with
  | nil =>
    have hne : mark ≠ [] := by
      rintro rfl
      cases hm
    rw [List.nil_append, occurrences_nil hne, occurrences_eq_zero_iff]
    exact fun h => hw (h.subset (List.mem_of_getLast? hm))
  | cons d s ih =>
    have hp : mark <+: d :: (s ++ w) ↔ mark <+: d :: s :=
      prefix_append_right_iff (s := d :: s) hm hw
    rw [List.cons_append, occurrences_cons, occurrences_cons, ih]
    simp only [hp]

/-- A character that a mark has not keeps its places apart. -/
theorem occurrences_append_cons (hm : mark ≠ []) (hc : c ∉ mark) :
    occurrences mark (a ++ c :: b) = occurrences mark a + occurrences mark b := by
  have hb : occurrences mark (c :: b) = occurrences mark b := by
    have hd : mark.head hm ≠ c := fun h => hc (h ▸ List.head_mem hm)
    exact occurrences_append_of_notMem (w := [c]) (List.head?_eq_some_head hm) (by simpa using hd)
  induction a with
  | nil => rw [List.nil_append, hb, occurrences_nil hm, Nat.zero_add]
  | cons d a ih =>
    have hp : mark <+: d :: (a ++ c :: b) ↔ mark <+: d :: a :=
      prefix_append_cons_iff (a := d :: a) hc
    rw [List.cons_append, occurrences_cons, occurrences_cons, ih, Nat.add_assoc]
    simp only [hp]

theorem length_of_cutFirst? (h : cutFirst? mark s = some (a, b)) :
    s.length = a.length + mark.length + b.length := by
  rw [cutFirst?_eq_append h, List.length_append, List.length_append]

/-- A text without the mark cannot be cut at it. -/
theorem cutFirst?_eq_none_iff : cutFirst? mark s = none ↔ occurrences mark s = 0 := by
  rw [occurrences_eq_zero_iff]
  induction s with
  | nil => simp [cutFirst?, isPrefixOf?_eq_none_iff]
  | cons c s ih =>
    rw [cutFirst?, List.infix_cons_iff, not_or, ← ih, ← isPrefixOf?_eq_none_iff]
    cases mark.isPrefixOf? (c :: s) <;> simp

private theorem cutFirst?_cons_eq_some_iff {d e : Char} :
    cutFirst? mark (e :: s) = some (d :: a, b) ↔
      ¬ mark <+: e :: s ∧ e = d ∧ cutFirst? mark s = some (a, b) := by
  rw [cutFirst?, ← isPrefixOf?_eq_none_iff]
  cases mark.isPrefixOf? (e :: s) with
  | none => simp [and_left_comm]
  | some rest => simp

/-- The cut is at the mark that ends first, so no mark lies in front of its last character. -/
theorem cutFirst?_eq_some_iff (hm : mark ≠ []) :
    cutFirst? mark s = some (a, b) ↔
      s = a ++ (mark ++ b) ∧ occurrences mark (a ++ mark.dropLast) = 0 := by
  have hl : mark.length = mark.dropLast.length + 1 := by
    rw [List.length_dropLast]
    exact (Nat.sub_add_cancel (List.length_pos_iff.2 hm)).symm
  induction a generalizing s with
  | nil =>
    have hz : occurrences mark ([] ++ mark.dropLast) = 0 := by
      refine occurrences_eq_zero_iff.2 fun h => ?_
      have hle := h.length_le
      rw [List.nil_append] at hle
      omega
    have hs : cutFirst? mark s = some ([], b) ↔ mark.isPrefixOf? s = some b := by
      cases s with
      | nil => simp [cutFirst?]
      | cons d s =>
        rw [cutFirst?]
        cases mark.isPrefixOf? (d :: s) <;> simp
    rw [hs, List.isPrefixOf?_eq_some_iff_append_eq, eq_comm, List.nil_append, and_iff_left hz]
  | cons d a ih =>
    -- A mark that begins here ends before the one behind `a` does.
    have hp : mark <+: d :: (a ++ (mark ++ b)) ↔ mark <+: d :: (a ++ mark.dropLast) := by
      have hd : d :: (a ++ mark.dropLast) <+: d :: (a ++ (mark ++ b)) :=
        (List.prefix_append_right_inj (d :: a)).2
          ((List.dropLast_prefix mark).trans (List.prefix_append mark b))
      refine ⟨fun h => List.prefix_of_prefix_length_le h hd ?_, fun h => h.trans hd⟩
      simp only [List.length_cons, List.length_append]
      omega
    rw [List.cons_append, List.cons_append, occurrences_cons, Nat.add_eq_zero_iff,
      ite_eq_right_iff, ← hp]
    cases s with
    | nil => simp [cutFirst?]
    | cons e s =>
      refine cutFirst?_cons_eq_some_iff.trans ?_
      simp only [ih]
      constructor
      · rintro ⟨hn, rfl, rfl, hz⟩
        exact ⟨rfl, fun h => absurd h hn, hz⟩
      · rintro ⟨he, hn, hz⟩
        obtain ⟨rfl, rfl⟩ := List.cons.inj he
        exact ⟨fun h => absurd (hn h) Nat.one_ne_zero, rfl, rfl, hz⟩

/-- The cut at a mark is at its first place. -/
theorem occurrences_before_cutFirst? (hm : mark ≠ []) (h : cutFirst? mark s = some (a, b)) :
    occurrences mark a = 0 :=
  occurrences_eq_zero_of_infix (List.prefix_append a _).isInfix ((cutFirst?_eq_some_iff hm).1 h).2

/-- A cut takes away one place of a mark whose first character stands nowhere else in it. -/
theorem occurrences_of_cutFirst? (hm : mark.head? = some c) (hc : c ∉ mark.tail)
    (h : cutFirst? mark s = some (a, b)) : occurrences mark s = occurrences mark b + 1 := by
  obtain ⟨m, rfl⟩ := List.head?_eq_some_iff.1 hm
  induction s generalizing a with
  | nil => simp [cutFirst?, List.isPrefixOf?] at h
  | cons d s ih =>
    rw [cutFirst?] at h
    split at h
    · next rest hr =>
      cases h
      have he : c :: (m ++ b) = d :: s := List.append_eq_of_isPrefixOf?_eq_some hr
      obtain ⟨rfl, rfl⟩ := List.cons.inj he
      have hb : occurrences (c :: m) (m ++ b) = occurrences (c :: m) b :=
        occurrences_append_of_notMem hm hc
      rw [occurrences_cons, if_pos ⟨b, rfl⟩, hb, Nat.add_comm]
    · next hn =>
      obtain ⟨⟨before, rest⟩, hb, he⟩ := Option.map_eq_some_iff.1 h
      cases he
      rw [occurrences_cons, if_neg (isPrefixOf?_eq_none_iff.1 hn), Nat.zero_add]
      exact ih hb

private theorem not_prefix_append_mark (hm : mark.head? = some c) (hc : c ∉ mark.tail) (ha : a ≠ [])
    (h : ¬ mark <+: a) : ¬ mark <+: a ++ (mark ++ b) := by
  obtain ⟨m, rfl⟩ := List.head?_eq_some_iff.1 hm
  obtain ⟨d, a, rfl⟩ := List.exists_cons_of_ne_nil ha
  rw [prefix_append_iff, not_or]
  refine ⟨h, ?_⟩
  rintro ⟨t, ht, he⟩
  obtain ⟨rfl, rfl⟩ := List.cons.inj he
  rcases List.prefix_cons_iff.1 ht with rfl | ⟨u, rfl, -⟩
  · exact h (by simp)
  · exact hc (List.mem_append_right a List.mem_cons_self)

theorem cutFirst?_append (hm : mark.head? = some c) (hc : c ∉ mark.tail)
    (ha : occurrences mark a = 0) : cutFirst? mark (a ++ (mark ++ b)) = some (a, b) := by
  have hne : mark ≠ [] := by
    rintro rfl
    cases hm
  induction a with
  | nil =>
    have hs := isPrefixOf?_append mark b
    obtain ⟨d, m, rfl⟩ := List.exists_cons_of_ne_nil hne
    rw [List.cons_append] at hs
    rw [List.nil_append, List.cons_append, cutFirst?, hs]
  | cons d a ih =>
    rw [occurrences_cons, Nat.add_eq_zero_iff, ite_eq_right_iff] at ha
    have hp : ¬ mark <+: d :: a := fun h => absurd (ha.1 h) Nat.one_ne_zero
    have hn := not_prefix_append_mark (b := b) hm hc (List.cons_ne_nil d a) hp
    rw [List.cons_append] at hn ⊢
    rw [cutFirst?, isPrefixOf?_eq_none_iff.2 hn, ih ha.2]
    rfl

theorem cutLast?_eq_none_iff : cutLast? mark s = none ↔ ¬ mark <:+: s := by
  induction s with
  | nil => simp [cutLast?, isPrefixOf?_eq_none_iff]
  | cons c s ih =>
    rw [cutLast?, List.infix_cons_iff, not_or, ← ih, ← isPrefixOf?_eq_none_iff]
    cases cutLast? mark s <;> simp

theorem notMem_of_cutLast? (h : cutLast? [c] s = some (a, b)) : c ∉ b := by
  induction s generalizing a with
  | nil => simp [cutLast?, List.isPrefixOf?] at h
  | cons d s ih =>
    rw [cutLast?] at h
    split at h
    · next before rest hs =>
      cases h
      exact ih hs
    · next hn =>
      obtain ⟨rest, hr, he⟩ := Option.map_eq_some_iff.1 h
      cases he
      obtain ⟨-, rfl⟩ := List.cons.inj (List.append_eq_of_isPrefixOf?_eq_some hr)
      exact fun hc => cutLast?_eq_none_iff.1 hn ((List.singleton_infix_iff c _).2 hc)

/-- The last cut is at a mark behind which no other one begins. -/
theorem cutLast?_append (hm : mark ≠ []) (h : ¬ mark <:+: (mark ++ b).tail) :
    cutLast? mark (a ++ (mark ++ b)) = some (a, b) := by
  induction a with
  | nil =>
    have hs := isPrefixOf?_append mark b
    obtain ⟨c, m, rfl⟩ := List.exists_cons_of_ne_nil hm
    rw [List.cons_append, List.tail_cons] at h
    rw [List.cons_append] at hs
    rw [List.nil_append, List.cons_append, cutLast?, cutLast?_eq_none_iff.2 h, hs]
    rfl
  | cons d a ih => simp [cutLast?, ih]

/-- The cut at a character is at its last place. -/
theorem cutLast?_append_cons (hb : c ∉ b) : cutLast? [c] (a ++ c :: b) = some (a, b) :=
  cutLast?_append (List.cons_ne_nil c []) fun h => hb ((List.singleton_infix_iff c b).1 h)

end ScriptTrace.Text
