import Mathlib.Data.List.Sort

/-! Lists of what is found at the indices of something, in the order of the indices.
What is found at which index leaves no choice of the list. -/
namespace ScriptTrace

/-- The list holds every value that `P` finds at an index, in increasing order of the indices. -/
def Listing {α : Type} (P : Nat → α → Prop) (values : List α) : Prop :=
  ∃ found : List (Nat × α), found.Pairwise (fun a b => a.1 < b.1) ∧
    (∀ i v, (i, v) ∈ found ↔ P i v) ∧ found.map Prod.snd = values

namespace Listing
variable {α : Type} {P : Nat → α → Prop} {values others : List α}

/-- There is one list of all values in order. -/
theorem unique (h : Listing P values) (h' : Listing P others) : values = others := by
  obtain ⟨found, hs, hm, rfl⟩ := h
  obtain ⟨found', hs', hm', rfl⟩ := h'
  have : Std.Irrefl (fun a b : Nat × α => a.1 < b.1) := ⟨fun a => Nat.lt_irrefl a.1⟩
  have : Std.Antisymm (fun a b : Nat × α => a.1 < b.1) :=
    ⟨fun a b hab hba => absurd hba (Nat.lt_asymm hab)⟩
  have he : found = found' := hs.eq_of_mem_iff hs' fun p => (hm p.1 p.2).trans (hm' p.1 p.2).symm
  rw [he]

/-- The list has the values that are found at some index, and no others. -/
theorem mem_iff (h : Listing P values) {v : α} : v ∈ values ↔ ∃ i, P i v := by
  obtain ⟨found, _, hm, rfl⟩ := h
  simp only [List.mem_map, Prod.exists, exists_eq_right, hm]

/-- What stands for the values is listed in the same order. -/
theorem map {β : Type} {Q : Nat → β → Prop} {f : α → β} (h : Listing P values)
    (hQ : ∀ i w, Q i w ↔ ∃ v, P i v ∧ f v = w) : Listing Q (values.map f) := by
  obtain ⟨found, hs, hm, rfl⟩ := h
  refine ⟨found.map fun p => (p.1, f p.2), ?_, ?_, by simp⟩
  · rw [List.pairwise_map]
    exact hs
  · intro i w
    simp [hQ, ← hm]

theorem nil (h : ∀ i v, ¬ P i v) : Listing P [] :=
  ⟨[], .nil, by simpa using h, rfl⟩

/-- Indices at which nothing is found may stand before the others. -/
theorem shift (n : Nat) (hlow : ∀ i v, i < n → ¬ P i v)
    (h : Listing (fun i => P (n + i)) values) : Listing P values := by
  obtain ⟨found, hs, hm, rfl⟩ := h
  refine ⟨found.map fun p => (n + p.1, p.2), ?_, ?_, ?_⟩
  · rw [List.pairwise_map]
    exact hs.imp fun hab => Nat.add_lt_add_left hab n
  · intro i v
    constructor
    · intro hi
      obtain ⟨⟨k, w⟩, hk, he⟩ := List.mem_map.1 hi
      cases he
      exact (hm k w).1 hk
    · intro hP
      have hn : n ≤ i := Nat.le_of_not_lt fun hi => hlow i v hi hP
      have hi : n + (i - n) = i := Nat.add_sub_cancel' hn
      have hk : (i - n, v) ∈ found := (hm (i - n) v).2 (by simpa only [hi] using hP)
      exact List.mem_map.2 ⟨_, hk, by rw [hi]⟩
  · simp

theorem skip (hv : ∀ v, ¬ P 0 v) (h : Listing (fun i => P (i + 1)) values) :
    Listing P values := by
  apply shift 1
  · intro i v hi
    rw [Nat.lt_one_iff.1 hi]
    exact hv v
  · simpa only [Nat.add_comm] using h

/-- The value at the first index stands in front. -/
theorem cons {v : α} (hv : ∀ w, P 0 w ↔ w = v) (h : Listing (fun i => P (i + 1)) values) :
    Listing P (v :: values) := by
  obtain ⟨found, hs, hm, rfl⟩ := h
  refine ⟨(0, v) :: found.map fun p => (p.1 + 1, p.2), ?_, ?_, by simp⟩
  · refine List.pairwise_cons.2 ⟨?_, ?_⟩
    · intro p hp
      obtain ⟨q, _, rfl⟩ := List.mem_map.1 hp
      exact Nat.succ_pos q.1
    · rw [List.pairwise_map]
      exact hs.imp fun hab => Nat.add_lt_add_right hab 1
  · intro i w
    cases i with
    | zero => simp [hv]
    | succ i => simp [hm]

/-- What a function makes of some values, in the order of these. -/
theorem filterMap {β : Type} (f : α → Option β) (xs : List α) :
    Listing (fun i w => ∃ x, xs[i]? = some x ∧ f x = some w) (xs.filterMap f) := by
  induction xs with
  | nil => exact nil (by simp)
  | cons x xs ih =>
    cases hf : f x with
    | none =>
      rw [List.filterMap_cons_none hf]
      exact ih.skip (by simp [hf])
    | some w =>
      rw [List.filterMap_cons_some hf]
      exact ih.cons (by simp [hf, eq_comm])

end Listing
end ScriptTrace
