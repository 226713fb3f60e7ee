import ScriptTrace.Proofs.History.LineKinds

/-! The shapes of the lines in a message history.
A line has one shape at most, with one place or one number in it, and so it does not matter which
shape is looked for first. -/
namespace ScriptTrace.History.LineKind
open Text Throwpoint

/-- How the lines of each kind are written. Chatter is whatever is left. -/
inductive Shape (line : Text) : LineKind → Prop
  | header {place : Text} (h : line = headerMark ++ (place ++ [':'])) : Shape line (.header place)
  /-- The colon of a header may be missing, but then no other colon stands at the end. -/
  | bareHeader {place : Text} (h : line = headerMark ++ place) (hc : line.getLast? ≠ some ':') :
    Shape line (.header place)
  | lineNumber {blanks digits : Text} (hne : blanks ≠ []) (hb : ∀ c ∈ blanks, isBlank c = true)
    (hd : isDigits digits = true) (h : line = lineMark ++ (blanks ++ (digits ++ [':']))) :
    Shape line (.lineNumber digits)
  | errorCode {digits rest : Text} (hd : isDigits digits = true)
    (h : line = 'E' :: (digits ++ ':' :: rest)) : Shape line .errorCode

/-- The line has the shape of its kind, or is chatter that has no shape. -/
def HasKind (line : Text) (kind : LineKind) : Prop :=
  Shape line kind ∨ kind = .other ∧ ∀ kind, ¬ Shape line kind

section Tests

def headerTest (line : Text) : Option LineKind :=
  (headerMark.isPrefixOf? line).map fun rest => .header (dropEnd [':'] rest)

def numberTest (line : Text) : Option LineKind :=
  (number? line).map .lineNumber

def codeTest (line : Text) : Option LineKind :=
  if isErrorCode line then some .errorCode else none

def tests : List (Text → Option LineKind) := [headerTest, numberTest, codeTest]

/-- What the first test says that the line passes. A line that passes none is chatter. -/
def firstKind (order : List (Text → Option LineKind)) (line : Text) : LineKind :=
  (order.findSome? fun test => test line).getD .other

private theorem classify_eq_firstKind (line : Text) : classify line = firstKind tests line := by
  rw [classify, firstKind, tests, List.findSome?_cons, headerTest]
  cases headerMark.isPrefixOf? line with
  | some rest => rfl
  | none =>
    rw [Option.map_none, List.findSome?_cons, numberTest]
    cases number? line with
    | some digits => rfl
    | none =>
      rw [Option.map_none, List.findSome?_singleton, codeTest]
      dsimp only
      split <;> rfl

end Tests

section Reading
variable {line : Text} {kind : LineKind}

private theorem headerTest_eq_some_iff :
    headerTest line = some kind ↔
      ∃ place, kind = .header place ∧
        (line = headerMark ++ (place ++ [':']) ∨
          line = headerMark ++ place ∧ line.getLast? ≠ some ':') := by
  -- the mark ends in a space, so a colon at the end of the line is one behind the mark
  have hlast (rest : Text) : (headerMark ++ rest).getLast? = some ':' ↔ rest.getLast? = some ':' := by
    have hm : headerMark.getLast? = some ' ' := by decide
    rw [List.getLast?_append, hm]
    cases rest.getLast? <;> simp
  simp only [headerTest, Option.map_eq_some_iff, List.isPrefixOf?_eq_some_iff_append_eq]
  constructor
  · rintro ⟨rest, rfl, rfl⟩
    have hd : rest = dropEnd [':'] rest ++ [':'] ∨
        rest = dropEnd [':'] rest ∧ rest.getLast? ≠ some ':' :=
      dropEnd_singleton_eq_iff.1 rfl
    refine ⟨_, rfl, ?_⟩
    rcases hd with h | ⟨h, hc⟩
    · exact .inl (congrArg (headerMark ++ ·) h)
    · exact .inr ⟨congrArg (headerMark ++ ·) h, mt (hlast rest).1 hc⟩
  · rintro ⟨place, rfl, rfl | ⟨rfl, hc⟩⟩
    · exact ⟨_, rfl, congrArg LineKind.header (dropEnd_append [':'] place)⟩
    · refine ⟨_, rfl, congrArg LineKind.header ?_⟩
      exact dropEnd_singleton_eq_iff.2 (.inr ⟨rfl, mt (hlast place).2 hc⟩)

private theorem shape_of_test {test : Text → Option LineKind} (ht : test ∈ tests)
    (h : test line = some kind) : Shape line kind := by
  simp only [tests, List.mem_cons, List.not_mem_nil, or_false] at ht
  rcases ht with rfl | rfl | rfl
  · obtain ⟨place, rfl, hp | ⟨hp, hc⟩⟩ := headerTest_eq_some_iff.1 h
    · exact .header hp
    · exact .bareHeader hp hc
  · obtain ⟨digits, hn, rfl⟩ := Option.map_eq_some_iff.1 h
    obtain ⟨blanks, hne, hb, hd, hl⟩ := number?_eq_some_iff.1 hn
    exact .lineNumber hne hb hd hl
  · rw [codeTest, Option.ite_none_right_eq_some] at h
    obtain ⟨hc, he⟩ := h
    obtain rfl := Option.some.inj he
    obtain ⟨digits, rest, hd, hl⟩ := isErrorCode_iff.1 hc
    exact .errorCode hd hl

private theorem Shape.exists_test (h : Shape line kind) :
    ∃ test ∈ tests, test line = some kind := by
  cases h with
  | header h =>
    exact ⟨headerTest, by simp [tests], headerTest_eq_some_iff.2 ⟨_, rfl, .inl h⟩⟩
  | bareHeader h hc =>
    exact ⟨headerTest, by simp [tests], headerTest_eq_some_iff.2 ⟨_, rfl, .inr ⟨h, hc⟩⟩⟩
  | lineNumber hne hb hd h =>
    refine ⟨numberTest, by simp [tests], ?_⟩
    exact Option.map_eq_some_iff.2 ⟨_, number?_eq_some_iff.2 ⟨_, hne, hb, hd, h⟩, rfl⟩
  | errorCode hd h =>
    exact ⟨codeTest, by simp [tests], if_pos (isErrorCode_iff.2 ⟨_, _, hd, h⟩)⟩

private theorem classify_of_headerTest (h : headerTest line = some kind) :
    classify line = kind := by
  rw [classify_eq_firstKind, firstKind, tests, List.findSome?_cons, h]
  rfl

/-- A line that has a shape passes no test before the one for it. -/
theorem Shape.classify_eq (h : Shape line kind) : classify line = kind := by
  cases h with
  | header h => exact classify_of_headerTest (headerTest_eq_some_iff.2 ⟨_, rfl, .inl h⟩)
  | bareHeader h hc => exact classify_of_headerTest (headerTest_eq_some_iff.2 ⟨_, rfl, .inr ⟨h, hc⟩⟩)
  | lineNumber hne hb hd h => exact classify_of_number? (number?_eq_some_iff.2 ⟨_, hne, hb, hd, h⟩)
  | errorCode hd h => exact classify_eq_errorCode_iff.2 ⟨_, _, hd, h⟩

/-- No line has two shapes. -/
theorem Shape.unique {kind' : LineKind} (h : Shape line kind) (h' : Shape line kind') :
    kind = kind' :=
  h.classify_eq.symm.trans h'.classify_eq

/-- In every order of the tests, the first one that is passed reads the shape of the line. -/
theorem hasKind_firstKind {order : List (Text → Option LineKind)} (ho : order.Perm tests)
    (line : Text) : HasKind line (firstKind order line) := by
  rw [firstKind]
  cases h : order.findSome? fun test => test line with
  | some kind =>
    obtain ⟨test, ht, hk⟩ := List.exists_of_findSome?_eq_some h
    exact .inl (shape_of_test (ho.mem_iff.1 ht) hk)
  | none =>
    refine .inr ⟨rfl, fun kind hk => ?_⟩
    obtain ⟨test, ht, he⟩ := hk.exists_test
    rw [List.findSome?_eq_none_iff.1 h test (ho.mem_iff.2 ht)] at he
    cases he

private theorem hasKind_classify (line : Text) : HasKind line (classify line) := by
  rw [classify_eq_firstKind]
  exact hasKind_firstKind (.refl tests) line

/-- A line that is taken for more than chatter has the shape of its kind. -/
theorem shape_of_classify (h : classify line = kind) (hk : kind ≠ .other) : Shape line kind := by
  have hs := hasKind_classify line
  rw [h] at hs
  exact hs.resolve_right fun ho => hk ho.1

/-- No line is of two kinds. -/
theorem HasKind.unique {kind' : LineKind} (h : HasKind line kind) (h' : HasKind line kind') :
    kind = kind' := by
  rcases h with h | ⟨rfl, hn⟩
  · rcases h' with h' | ⟨-, hn⟩
    · exact h.unique h'
    · exact absurd h (hn kind)
  · rcases h' with h' | ⟨rfl, -⟩
    · exact absurd h' (hn kind')
    · rfl

end Reading

/-- A line is of the kind that its shape says, and chatter if it has none. It has one shape at most,
so it is of the same kind in whatever order the tests for the shapes are made. -/
theorem classify_shape (line : Text) :
    (∀ kind, classify line = kind ↔ HasKind line kind) ∧
    (∀ kind kind', Shape line kind → Shape line kind' → kind = kind') ∧
    ∀ order : List (Text → Option LineKind), order.Perm tests →
      firstKind order line = classify line := by
  have hc := hasKind_classify line
  refine ⟨fun kind => ⟨?_, hc.unique⟩, fun _ _ => Shape.unique, fun order ho => ?_⟩
  · rintro rfl
    exact hc
  · exact (hasKind_firstKind ho line).unique hc

example : classify "line\u00a0\u30007:".toList = .lineNumber "7".toList ∧
    classify "line \u0667:".toList = .other := by
  decide

end ScriptTrace.History.LineKind
