import ScriptTrace.Json.Decode

/-! The members of an object.
Sorting them by their keys loses none, and where two of them may be read in either order, so may
all. -/
namespace ScriptTrace.Json

section Sorting
variable {key : Text} {value : Json} {members : List (Text × Json)}

/-- A new key adds one member and keeps the others. -/
theorem insertMember_perm (h : key ∉ members.map Prod.fst) :
    (insertMember key value members).Perm ((key, value) :: members) := by
  induction members with
  | nil => exact .refl _
  | cons m rest ih =>
    obtain ⟨k, v⟩ := m
    rw [List.map_cons, List.mem_cons, not_or] at h
    rw [insertMember]
    split
    · exact .refl _
    · rw [if_neg h.1]
      exact ((ih h.2).cons (k, v)).trans (.swap (key, value) (k, v) rest)

private theorem foldl_insertMember_perm {sorted : List (Text × Json)}
    (h : ((members ++ sorted).map Prod.fst).Nodup) :
    (members.foldl (fun sorted (key, value) => insertMember key value sorted) sorted).Perm
      (members ++ sorted) := by
  induction members generalizing sorted with
  | nil => exact .refl _
  | cons m rest ih =>
    obtain ⟨k, v⟩ := m
    have hk : k ∉ sorted.map Prod.fst := by
      rw [List.cons_append, List.map_cons, List.nodup_cons, List.map_append, List.mem_append,
        not_or] at h
      exact h.1.2
    have hp : (rest ++ insertMember k v sorted).Perm ((k, v) :: (rest ++ sorted)) :=
      ((insertMember_perm hk).append_left rest).trans List.perm_middle
    exact (ih ((hp.map Prod.fst).nodup_iff.2 h)).trans hp

/-- Members with different keys are only put into another order. -/
theorem sortMembers_perm (h : (members.map Prod.fst).Nodup) :
    (sortMembers members).Perm members := by
  have hp : (sortMembers members).Perm (members ++ []) :=
    foldl_insertMember_perm (by rwa [List.append_nil])
  rwa [List.append_nil] at hp

end Sorting

namespace Shape
variable {σ : Type} {members : List (Member σ)}

theorem setMembers_cons_ok {key : Text} {value : Json} {rest : List (Text × Json)} {m : Member σ}
    {draft middle read : σ} (hm : members.find? (·.key = key) = some m)
    (hset : m.set value draft = .ok middle) (hrest : setMembers members rest middle = .ok read) :
    setMembers members ((key, value) :: rest) draft = .ok read := by
  simp only [setMembers, hm, hset]
  exact hrest

private theorem setMembers_append (a b : List (Text × Json)) (draft : σ) :
    setMembers members (a ++ b) draft = setMembers members a draft >>= setMembers members b := by
  induction a generalizing draft with
  | nil => rfl
  | cons x a ih =>
    obtain ⟨k, v⟩ := x
    rw [List.cons_append, setMembers, setMembers]
    cases members.find? (·.key = k) with
    | none => exact ih draft
    | some m =>
      dsimp only
      rw [bind_assoc]
      exact bind_congr ih

/-- Members can be set in two turns, from what the first turn made of the draft. -/
theorem setMembers_append_ok {a b : List (Text × Json)} {draft middle read : σ}
    (ha : setMembers members a draft = .ok middle) (hb : setMembers members b middle = .ok read) :
    setMembers members (a ++ b) draft = .ok read := by
  rw [setMembers_append, ha]
  exact hb

/-- Members of an object may be read in any order, if any two of them may. -/
theorem setMembers_perm {a b : List (Text × Json)} (h : a.Perm b)
    (hc : ∀ x ∈ a, ∀ y ∈ a, ∀ draft, setMembers members [x, y] draft =
      setMembers members [y, x] draft) (draft : σ) :
    setMembers members a draft = setMembers members b draft := by
  induction h generalizing draft with
  | nil => rfl
  | @cons x a b _ ih =>
    have hrest := ih fun y hy z hz =>
      hc y (List.mem_cons_of_mem x hy) z (List.mem_cons_of_mem x hz)
    have hsplit (given : List (Text × Json)) : x :: given = [x] ++ given := rfl
    rw [hsplit a, setMembers_append, hsplit b, setMembers_append]
    exact bind_congr hrest
  | swap x y rest =>
    -- the two are read first, and the rest sees the same draft
    have hxy := hc y (by simp) x (by simp) draft
    have hsplit (u v : Text × Json) : u :: v :: rest = [u, v] ++ rest := rfl
    rw [hsplit, setMembers_append, hxy, hsplit, setMembers_append]
  | trans hab _ iha ihb =>
    rw [iha hc, ihb fun x hx y hy => hc x (hab.mem_iff.2 hx) y (hab.mem_iff.2 hy)]

end Shape

/-- An array of values is read as these, if each of them is read as it was. -/
theorem toList_map {α : Type} {item : Json → Except DecodeError α} {write : α → Json}
    (h : ∀ x, item (write x) = .ok x) (xs : List α) : toList item (.array (xs.map write)) = .ok xs := by
  rw [toList]
  induction xs with
  | nil => rfl
  | cons x xs ih =>
    rw [List.map_cons, List.mapM_cons, h, ih]
    rfl

end ScriptTrace.Json
