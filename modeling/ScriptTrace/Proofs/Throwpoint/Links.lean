import ScriptTrace.Name
import ScriptTrace.Proofs.Text.Marks
import ScriptTrace.Throwpoint.Basic

/-! The names in a throwpoint, and what a change of one character does to them.
A bracket in the place of a character that is none ends the name of its segment elsewhere. -/
namespace ScriptTrace.Throwpoint
open Text

theorem segments_cons {c : Char} {s : Text} (h : c = '.' → s.head? ≠ some '.') :
    segments (c :: s) = (segments s).modifyHead (List.cons c) := by
  rw [segments]
  · obtain ⟨first, others, hs⟩ := List.exists_cons_of_ne_nil (segments_ne_nil s)
    rw [hs]
    rfl
  · rintro rest rfl rfl
    exact h rfl rfl

/-- A character other than a dot leaves the segments before it alone. -/
theorem segments_append_cons (a : Text) : ∃ front last, ∀ c b, c ≠ '.' →
    ∃ more rest, segments (a ++ c :: b) = front ++ (last ++ c :: more) :: rest := by
  fun_induction segments a with
  | case1 =>
    refine ⟨[], [], fun c b hc => ?_⟩
    obtain ⟨first, others, hs⟩ := List.exists_cons_of_ne_nil (segments_ne_nil b)
    exact ⟨first, others, by rw [List.nil_append, segments_cons fun h => absurd h hc, hs]; rfl⟩
  | case2 a ih =>
    obtain ⟨front, last, ih⟩ := ih
    refine ⟨[] :: front, last, fun c b hc => ?_⟩
    obtain ⟨more, rest, hs⟩ := ih c b hc
    exact ⟨more, rest, congrArg ([] :: ·) hs⟩
  | case3 c a _ hs => exact absurd hs (segments_ne_nil a)
  | case4 d a hd _ _ _ ih =>
    obtain ⟨front, last, ih⟩ := ih
    have hcons (c : Char) (b : Text) (hc : c ≠ '.') :
        segments (d :: a ++ c :: b) = (segments (a ++ c :: b)).modifyHead (List.cons d) := by
      refine segments_cons fun he => ?_
      cases a with
      | nil => simpa using hc
      | cons e a => exact fun h => hd a he (congrArg (· :: a) (Option.some_inj.1 h))
    -- The character goes into the first segment, which is the last one when no other is in front.
    cases front with
    | nil =>
      refine ⟨[], d :: last, fun c b hc => ?_⟩
      obtain ⟨more, rest, hs⟩ := ih c b hc
      exact ⟨more, rest, by rw [hcons c b hc, hs]; rfl⟩
    | cons f front =>
      refine ⟨(d :: f) :: front, last, fun c b hc => ?_⟩
      obtain ⟨more, rest, hs⟩ := ih c b hc
      exact ⟨more, rest, by rw [hcons c b hc, hs]; rfl⟩

section Body
variable {x y : Text} {c : Char}

/-- A segment is its body, or ends in a bracket without another one in it. -/
theorem parse_body_cases (token : Text) :
    (Link.parse token).body = token ∨
      ∃ inner, token = (Link.parse token).body ++ '[' :: inner ∧ '[' ∉ inner := by
  rw [Link.parse]
  split
  · exact Or.inl rfl
  · next rest hs =>
    split
    · exact Or.inl rfl
    · next body number hc =>
      have ht := (List.append_eq_of_isSuffixOf?_eq_some hs).symm
      rw [cutLast?_eq_append hc] at ht
      refine Or.inr ⟨number ++ [']'], ?_, ?_⟩
      · simpa using ht
      · simpa using notMem_of_cutLast? hc

private theorem parse_body_append (hc : c ≠ '[') :
    (∃ more, (Link.parse (x ++ c :: y)).body = x ++ c :: more) ∨
      ∃ more, x = (Link.parse (x ++ c :: y)).body ++ '[' :: more := by
  rcases parse_body_cases (x ++ c :: y) with he | ⟨inner, he, -⟩
  · exact Or.inl ⟨y, he⟩
  · rcases List.append_eq_append_iff.1 he with ⟨w, hb, hw⟩ | ⟨w, hb, hw⟩
    · rcases List.cons_eq_append_iff.1 hw with ⟨-, hw⟩ | ⟨u, rfl, -⟩
      · exact absurd (List.cons.inj hw).1.symm hc
      · exact Or.inl ⟨u, hb⟩
    · rcases List.cons_eq_append_iff.1 hw with ⟨-, hw⟩ | ⟨u, rfl, -⟩
      · exact absurd (List.cons.inj hw).1 hc
      · exact Or.inr ⟨u, hb⟩

private theorem parse_body_append_bracket :
    (Link.parse (x ++ '[' :: y)).body = x ∨
      ∃ more, (Link.parse (x ++ '[' :: y)).body = x ++ '[' :: more := by
  rcases parse_body_cases (x ++ '[' :: y) with he | ⟨inner, he, hi⟩
  · exact Or.inr ⟨y, he⟩
  · rcases List.append_eq_append_iff.1 he with ⟨w, hb, hw⟩ | ⟨w, hb, hw⟩
    · rcases List.cons_eq_append_iff.1 hw with ⟨rfl, -⟩ | ⟨u, rfl, -⟩
      · exact Or.inl (by simpa using hb)
      · exact Or.inr ⟨u, hb⟩
    · rcases List.cons_eq_append_iff.1 hw with ⟨rfl, -⟩ | ⟨u, rfl, hu⟩
      · exact Or.inl (by simpa using hb.symm)
      · exact absurd (hu ▸ List.mem_append_right u List.mem_cons_self) hi

private theorem display_ne_of_isPrefix (h : x <+: y) (hne : x ≠ y) :
    Name.display x ≠ Name.display y := by
  intro he
  rw [Name.display, Name.display] at he
  split at he <;> split at he
  · exact hne (by simpa using he)
  · next hx _ =>
    have hp : x <+: '\x7b' :: (x ++ ['\x7d']) := by simpa [← he] using h
    rcases List.prefix_cons_iff.1 hp with rfl | ⟨u, rfl, -⟩
    · cases hx
    · simp [isDigits] at hx
  · have hl := h.length_le
    simp only [he, List.length_append, List.length_singleton] at hl
    omega
  · exact hne he

private theorem isDigits_append_cons (hc : c.isDigit = false) : isDigits (x ++ c :: y) = false := by
  simp [isDigits, hc]

/-- A bracket gives a segment another name than a character that no number has. -/
theorem display_parse_ne {z : Text} (hc : c ≠ '[') (hd : c.isDigit = false) :
    Name.display (Link.parse (x ++ c :: y)).body ≠ Name.display (Link.parse (x ++ '[' :: z)).body := by
  rcases parse_body_append (x := x) (y := y) hc with ⟨more, ha⟩ | ⟨more, ha⟩ <;>
    rcases parse_body_append_bracket (x := x) (y := z) with hb | ⟨rest, hb⟩
  · rw [ha, hb]
    exact (display_ne_of_isPrefix (List.prefix_append x _) (by simp)).symm
  · rw [ha, hb, Name.display, Name.display, if_neg, if_neg]
    · simp [hc]
    · simp [isDigits_append_cons]
    · simp [isDigits_append_cons hd]
  · rw [hb]
    generalize (Link.parse (x ++ c :: y)).body = body at ha
    subst ha
    exact display_ne_of_isPrefix (List.prefix_append body _) (by simp)
  · rw [hb]
    generalize (Link.parse (x ++ c :: y)).body = body at ha
    subst ha
    rw [List.append_assoc]
    exact display_ne_of_isPrefix (List.prefix_append body _) (by simp)

end Body

def names : Throwpoint → List Text ⊕ Text
  | .function ls => .inl (ls.map fun link => Name.display link.body)
  | .file link => .inr link.body

/-- A bracket in the place of another character changes the names of a chain. -/
theorem names_function_ne {a b b' : Text} {c : Char} (hc : c ≠ '[') (hdot : c ≠ '.')
    (hd : c.isDigit = false) :
    names (.function (splitLinks (a ++ c :: b))) ≠ names (.function (splitLinks (a ++ '[' :: b'))) := by
  obtain ⟨front, last, hs⟩ := segments_append_cons a
  obtain ⟨more, rest, hm⟩ := hs c b hdot
  obtain ⟨more', rest', hm'⟩ := hs '[' b' (by decide)
  intro h
  simp only [names, splitLinks, hm, hm', List.map_append, List.map_cons, Sum.inl.injEq,
    List.append_cancel_left_eq, List.cons.injEq] at h
  exact display_parse_ne hc hd h.1

end ScriptTrace.Throwpoint
