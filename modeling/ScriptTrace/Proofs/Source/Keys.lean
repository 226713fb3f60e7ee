import ScriptTrace.Source.Index

/-! The keys of written names.
Names that are local to the script have keys that begin alike, however the source spells them. -/
namespace ScriptTrace.Source
open Text

variable {name key mark bare : Text}

/-- The name has a character that only dictionary members and computed names have. -/
def Marked (name : Text) : Prop :=
  ∃ c ∈ name, c = '.' ∨ c = '[' ∨ c = '\x7b'

/-- The key of a written name. Dictionary members and computed names have none; the mark of a
script, in any letter case, stands for the scope of local names; and any other name is its own
key. -/
inductive KeyOf : Text → Text → Prop where
  | scriptLocal {mark bare : Text} (hp : ¬ Marked (mark ++ bare))
    (hm : mark.map Char.toLower = scriptMark) : KeyOf (mark ++ bare) ("s:".toList ++ bare)
  | itself {name : Text} (hp : ¬ Marked name)
    (hm : ∀ mark, mark <+: name → mark.map Char.toLower ≠ scriptMark) : KeyOf name name

private theorem any_iff_marked :
    (name.any fun c => c = '.' || c = '[' || c = '\x7b') = true ↔ Marked name := by
  simp [Marked, or_assoc]

private theorem length_of_mark (hm : mark.map Char.toLower = scriptMark) :
    mark.length = scriptMark.length := by
  rw [← hm, List.length_map]

/-- The key of a written name is the one that the relation gives. -/
theorem keyOf_iff : KeyOf name key ↔ key? name = some key := by
  constructor
  · rintro (⟨hp, hm⟩ | ⟨hp, hm⟩)
    · rw [key?, if_neg (mt any_iff_marked.1 hp), ← length_of_mark hm, List.take_left' rfl,
        List.drop_left' rfl, if_pos hm]
    · rw [key?, if_neg (mt any_iff_marked.1 hp), if_neg (hm _ (List.take_prefix _ name))]
  · intro h
    rw [key?] at h
    split at h
    · cases h
    · next hp =>
      rw [any_iff_marked] at hp
      split at h
      · next hm =>
        cases h
        rw [← List.take_append_drop scriptMark.length name] at hp
        have hk := KeyOf.scriptLocal hp hm
        rwa [List.take_append_drop] at hk
      · next hm =>
        cases h
        refine .itself hp fun mark hpre he => hm ?_
        rw [← length_of_mark he, ← List.prefix_iff_eq_take.1 hpre, he]

/-- A written name that leads to the key: the key itself, or with the mark of a script, in any
letter case, in place of the scope. -/
def Spells (name key : Text) : Prop :=
  name = key ∨ ∃ mark bare, mark.map Char.toLower = scriptMark ∧ name = mark ++ bare ∧
    key = "s:".toList ++ bare

private theorem KeyOf.spells (h : KeyOf name key) : Spells name key := by
  cases h with
  | scriptLocal hp hm => exact Or.inr ⟨_, _, hm, rfl, rfl⟩
  | itself hp hm => exact Or.inl rfl

/-- A key has none of the characters of computed names and of dictionary members. -/
theorem notMem_of_key? {c : Char} (h : key? name = some key)
    (hc : c = '.' ∨ c = '[' ∨ c = '\x7b') : c ∉ key := by
  cases keyOf_iff.2 h with
  | scriptLocal hp hm =>
    have hs : c ∉ "s:".toList := by rcases hc with rfl | rfl | rfl <;> decide
    rw [List.mem_append, not_or]
    exact ⟨hs, fun hb => hp ⟨c, List.mem_append_right _ hb, hc⟩⟩
  | itself hp hm => exact fun hm => hp ⟨c, hm, hc⟩

private theorem key?_mark (hm : mark.map Char.toLower = scriptMark) :
    key? (mark ++ bare) = key? ("s:".toList ++ bare) := by
  have hany : (mark.any fun c => c = '.' || c = '[' || c = '\x7b') = false := by
    rw [List.any_eq_false]
    intro c hc
    have hl : c.toLower ∈ scriptMark := hm ▸ List.mem_map_of_mem hc
    rw [Bool.or_eq_true, Bool.or_eq_true, decide_eq_true_eq, decide_eq_true_eq, decide_eq_true_eq]
    rintro ((rfl | rfl) | rfl) <;> exact absurd hl (by decide)
  have hscope : ("s:".toList.any fun c => c = '.' || c = '[' || c = '\x7b') = false := by decide
  have hs : (("s:".toList ++ bare).take scriptMark.length).map Char.toLower ≠ scriptMark :=
    fun h => absurd (congrArg List.head? h) (by simp [scriptMark])
  rw [key?, key?, List.any_append, List.any_append, hany, hscope, ← length_of_mark hm,
    List.take_left' rfl, List.drop_left' rfl, if_pos hm, length_of_mark hm, if_neg hs]

private theorem key?_key (h : key? name = some key) : key? key = some key := by
  rcases (keyOf_iff.2 h).spells with rfl | ⟨mark, bare, hm, rfl, rfl⟩
  · exact h
  · rw [← key?_mark hm]
    exact h

/-- The names that lead to a key are those that spell it. -/
theorem spells_iff {other : Text} (h : key? other = some key) :
    Spells name key ↔ key? name = some key := by
  constructor
  · rintro (rfl | ⟨mark, bare, hm, rfl, rfl⟩)
    · exact key?_key h
    · rw [key?_mark hm]
      exact key?_key h
  · exact fun hk => (keyOf_iff.2 hk).spells

end ScriptTrace.Source
