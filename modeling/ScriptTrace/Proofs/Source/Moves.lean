import ScriptTrace.Source.Cursor

/-! What the moves of a cursor pass.
The bytes that the moves tell of are together the bytes before the cursor, so whatever moves are made,
it never leaves the line and never goes back. -/
namespace ScriptTrace.Source.Cursor
open Utf8 (Bytes)

section Places
variable (c : Cursor)

theorem take_source : c.source.take c.pos = c.passed.reverse :=
  List.take_left' List.length_reverse

theorem drop_source : c.source.drop c.pos = c.left :=
  List.drop_left' List.length_reverse

theorem pos_le_length : c.pos ≤ c.source.length := by
  rw [source, List.length_append, List.length_reverse]
  exact Nat.le_add_right _ _

theorem peek_eq_getElem? : c.peek = c.source[c.pos]? := by
  rw [peek, ← drop_source, List.head?_drop]

theorem peek_eq_none_iff : c.peek = none ↔ c.source.length ≤ c.pos := by
  rw [peek_eq_getElem?, List.getElem?_eq_none_iff]

theorem atEnd_iff_peek : c.atEnd = true ↔ c.peek = none := by
  rw [atEnd, peek, List.isEmpty_iff, List.head?_eq_none_iff]

variable {c} {b : UInt8}

private theorem advance_of_peek (h : c.peek = some b) :
    c.advance = (some b, ⟨b :: c.passed, c.left.tail⟩) := by
  obtain ⟨rest, hr⟩ := List.head?_eq_some_iff.1 h
  rw [advance, hr, List.tail_cons]

private theorem advance_of_peek_eq_none (h : c.peek = none) : c.advance = (none, c) := by
  rw [advance, List.head?_eq_none_iff.1 h]

private theorem accept_of_peek (h : c.peek = some b) :
    c.accept b = (true, ⟨b :: c.passed, c.left.tail⟩) := by
  rw [accept, if_pos h, advance_of_peek h]

private theorem accept_of_peek_ne (h : c.peek ≠ some b) : c.accept b = (false, c) :=
  if_neg h

end Places

section Loop

/-- The loop that passes a byte as long as the next one is in a class, and how often it does. -/
inductive Skips (bytes : Bytes) (p : UInt8 → Bool) : Nat → Nat → Prop
  | stop {pos : Nat} (h : ∀ b, bytes[pos]? = some b → p b = false) : Skips bytes p pos 0
  | pass {pos count : Nat} {b : UInt8} (hb : bytes[pos]? = some b) (hp : p b = true)
    (h : Skips bytes p (pos + 1) count) : Skips bytes p pos (count + 1)

/-- A stretch of bytes in a class, behind which there is none of the class. -/
structure Stretch (bytes : Bytes) (p : UInt8 → Bool) (pos count : Nat) : Prop where
  all : ∀ i < count, ∃ b, bytes[pos + i]? = some b ∧ p b = true
  stops : ∀ b, bytes[pos + count]? = some b → p b = false

private theorem Skips.stretch {bytes : Bytes} {p : UInt8 → Bool} {pos count : Nat}
    (h : Skips bytes p pos count) : Stretch bytes p pos count := by
  induction h with
  | stop h => exact ⟨fun i hi => absurd hi (Nat.not_lt_zero i), h⟩
  | pass hb hp h ih =>
    constructor
    · intro i hi
      cases i with
      | zero => exact ⟨_, hb, hp⟩
      | succ i =>
        rw [← Nat.succ_add_eq_add_succ]
        exact ih.all i (Nat.lt_of_succ_lt_succ hi)
    · rw [← Nat.succ_add_eq_add_succ]
      exact ih.stops

/-- From every place the loop ends, after as many turns as are counted. -/
theorem skips_skipWhile (c : Cursor) (p : UInt8 → Bool) :
    Skips c.source p c.pos (c.skipWhile p).1 := by
  obtain ⟨passed, left⟩ := c
  induction left generalizing passed with
  | nil => exact .stop fun b hb => by simp [source, pos] at hb
  | cons b left ih =>
    have hb : (Cursor.mk passed (b :: left)).source[passed.length]? = some b :=
      (peek_eq_getElem? ⟨passed, b :: left⟩).symm
    cases hp : p b with
    | false =>
      have hc : (skipWhile ⟨passed, b :: left⟩ p).1 = 0 := by simp [skipWhile, hp]
      rw [hc]
      refine .stop fun d hd => ?_
      obtain rfl := Option.some.inj (hb.symm.trans hd)
      exact hp
    | true =>
      have hc : (skipWhile ⟨passed, b :: left⟩ p).1 = (skipWhile ⟨b :: passed, left⟩ p).1 + 1 := by
        simp [skipWhile, hp]
      have hs : (Cursor.mk (b :: passed) left).source = (Cursor.mk passed (b :: left)).source :=
        source_advance ⟨passed, b :: left⟩
      rw [hc]
      exact .pass hb hp (hs ▸ ih (b :: passed))

end Loop

section Moves

/-- What can be done with a cursor. -/
inductive Move where
  | peek
  | advance
  | accept (expected : UInt8)
  | skipWhile (p : UInt8 → Bool)
  | skipGaps

/-- What a move answers. -/
inductive Answer where
  | byte (b : Option UInt8)
  | accepted (yes : Bool)
  | count (n : Nat)
  deriving DecidableEq, Repr

def move (c : Cursor) : Move → Cursor
  | .peek => c
  | .advance => c.advance.2
  | .accept expected => (c.accept expected).2
  | .skipWhile p => (c.skipWhile p).2
  | .skipGaps => c.skipGaps.2

def answer (c : Cursor) : Move → Answer
  | .peek => .byte c.peek
  | .advance => .byte c.advance.1
  | .accept expected => .accepted (c.accept expected).1
  | .skipWhile p => .count (c.skipWhile p).1
  | .skipGaps => .count c.skipGaps.1

/-- The bytes that a move passes, as it tells: the one that it returns, the one that it was asked
for, or as many of the next ones as it counts. -/
def taken (c : Cursor) : Move → Bytes
  | .peek => []
  | .advance => c.advance.1.toList
  | .accept expected => if (c.accept expected).1 then [expected] else []
  | .skipWhile p => (c.source.drop c.pos).take (c.skipWhile p).1
  | .skipGaps => (c.source.drop c.pos).take c.skipGaps.1

def run (c : Cursor) (moves : List Move) : Cursor :=
  moves.foldl move c

def takenAll : Cursor → List Move → List Bytes
  | _, [] => []
  | c, m :: moves => c.taken m :: (c.move m).takenAll moves

/-- What a move does at a position in a line, and the position after it. -/
inductive Step (bytes : Bytes) (pos : Nat) : Move → Answer → Nat → Prop
  | peek : Step bytes pos .peek (.byte bytes[pos]?) pos
  | advance {b : UInt8} (h : bytes[pos]? = some b) :
    Step bytes pos .advance (.byte (some b)) (pos + 1)
  | stay (h : bytes[pos]? = none) : Step bytes pos .advance (.byte none) pos
  | accept {expected : UInt8} (h : bytes[pos]? = some expected) :
    Step bytes pos (.accept expected) (.accepted true) (pos + 1)
  | refuse {expected : UInt8} (h : bytes[pos]? ≠ some expected) :
    Step bytes pos (.accept expected) (.accepted false) pos
  | skipWhile {p : UInt8 → Bool} {count : Nat} (h : Skips bytes p pos count)
    (hs : Stretch bytes p pos count) : Step bytes pos (.skipWhile p) (.count count) (pos + count)
  | skipGaps {count : Nat} (h : Skips bytes isGap pos count) (hs : Stretch bytes isGap pos count) :
    Step bytes pos .skipGaps (.count count) (pos + count)

theorem Step.le {bytes : Bytes} {pos pos' : Nat} {m : Move} {a : Answer}
    (h : Step bytes pos m a pos') : pos ≤ pos' := by
  cases h with
  | peek => exact Nat.le_refl _
  | advance => exact Nat.le_succ _
  | stay => exact Nat.le_refl _
  | accept => exact Nat.le_succ _
  | refuse => exact Nat.le_refl _
  | skipWhile => exact Nat.le_add_right _ _
  | skipGaps => exact Nat.le_add_right _ _

private theorem pos_skipWhile (c : Cursor) (p : UInt8 → Bool) :
    (c.skipWhile p).2.pos = c.pos + (c.skipWhile p).1 := by
  simp [skipWhile, pos, Nat.add_comm]

/-- Every move does what the byte at its position and those behind it say. -/
theorem step_move (c : Cursor) (m : Move) :
    Step c.source c.pos m (c.answer m) (c.move m).pos := by
  have hp := c.peek_eq_getElem?
  have hskip (p : UInt8 → Bool) := c.skips_skipWhile p
  cases m with
  | peek =>
    rw [answer, hp]
    exact .peek
  | advance =>
    cases he : c.peek with
    | none =>
      rw [answer, move, advance_of_peek_eq_none he]
      exact .stay (hp.symm.trans he)
    | some b =>
      rw [answer, move, advance_of_peek he]
      exact .advance (hp.symm.trans he)
  | accept expected =>
    by_cases he : c.peek = some expected
    · rw [answer, move, accept_of_peek he]
      exact .accept (hp.symm.trans he)
    · rw [answer, move, accept_of_peek_ne he]
      exact .refuse fun h => he (hp.trans h)
  | skipWhile p =>
    rw [answer, move, pos_skipWhile]
    exact .skipWhile (hskip p) (hskip p).stretch
  | skipGaps =>
    rw [answer, move, skipGaps, pos_skipWhile]
    exact .skipGaps (hskip isGap) (hskip isGap).stretch

private theorem source_move (c : Cursor) (m : Move) : (c.move m).source = c.source := by
  cases m with
  | peek => rfl
  | advance => exact c.source_advance
  | accept expected =>
    rw [move, accept]
    split
    · exact c.source_advance
    · rfl
  | skipWhile p => exact c.source_skipWhile p
  | skipGaps => exact c.source_skipWhile isGap

private theorem passed_skipWhile (c : Cursor) (p : UInt8 → Bool) :
    (c.skipWhile p).2.passed =
      ((c.source.drop c.pos).take (c.skipWhile p).1).reverse ++ c.passed := by
  have hp : c.left.takeWhile p = c.left.take (c.left.takeWhile p).length :=
    List.prefix_iff_eq_take.1 (List.takeWhile_prefix p)
  rw [drop_source, skipWhile, ← hp]

/-- The bytes that a move tells of come right behind those that were passed before. -/
theorem passed_move (c : Cursor) (m : Move) :
    (c.move m).passed = (c.taken m).reverse ++ c.passed := by
  cases m with
  | peek => rfl
  | advance =>
    cases he : c.peek with
    | none =>
      rw [move, taken, advance_of_peek_eq_none he]
      rfl
    | some b =>
      rw [move, taken, advance_of_peek he]
      rfl
  | accept expected =>
    by_cases he : c.peek = some expected
    · rw [move, taken, accept_of_peek he]
      rfl
    · rw [move, taken, accept_of_peek_ne he]
      rfl
  | skipWhile p => exact c.passed_skipWhile p
  | skipGaps => exact c.passed_skipWhile isGap

/-- Moves leave the bytes of the line as they are. -/
theorem source_run (c : Cursor) (moves : List Move) : (c.run moves).source = c.source := by
  induction moves generalizing c with
  | nil => rfl
  | cons m moves ih => exact (ih (c.move m)).trans (c.source_move m)

/-- What the moves have passed, one after the other, is what stands before the cursor. -/
theorem passed_run (c : Cursor) (moves : List Move) :
    (c.run moves).passed = (c.takenAll moves).flatten.reverse ++ c.passed := by
  induction moves generalizing c with
  | nil => rfl
  | cons m moves ih =>
    calc
      (c.run (m :: moves)).passed = ((c.move m).takenAll moves).flatten.reverse ++ (c.move m).passed :=
        ih (c.move m)
      _ = _ := by
        rw [passed_move, takenAll, List.flatten_cons, List.reverse_append, List.append_assoc]

end Moves

/-- After any moves from the beginning of a line, the bytes that they passed are those in front of
the cursor. It is still in the line, and one more move does not take it back: it goes over bytes that
it tells of, or stays where it is. -/
theorem run_ofText (line : Text) (moves : List Move) :
    let bytes := Utf8.encode line
    let c := (ofText line).run moves
    c.pos ≤ bytes.length ∧ ((ofText line).takenAll moves).flatten = bytes.take c.pos ∧
    (c.atEnd = true ↔ c.peek = none) ∧ (c.peek = none ↔ bytes.length ≤ c.pos) ∧
    ∀ m, c.pos ≤ (c.move m).pos ∧ Step bytes c.pos m (c.answer m) (c.move m).pos := by
  intro bytes c
  have hs : c.source = bytes := (ofText line).source_run moves
  have hp : c.passed = ((ofText line).takenAll moves).flatten.reverse := by
    rw [passed_run, ofText, List.append_nil]
  refine ⟨hs ▸ c.pos_le_length, ?_, c.atEnd_iff_peek, hs ▸ c.peek_eq_none_iff, fun m => ?_⟩
  · rw [← hs, take_source, hp, List.reverse_reverse]
  · have hm := hs ▸ c.step_move m
    exact ⟨hm.le, hm⟩

example : (ofText "\té(".toList).takenAll
    [.skipGaps, .accept 0x28, .skipWhile fun b => b != 0x28, .peek, .accept 0x28, .advance] =
      [[0x09], [], [0xC3, 0xA9], [], [0x28], []] := by
  decide

end ScriptTrace.Source.Cursor
