import ScriptTrace.Proofs.History.Reading

/-! The extractor finds exactly the records that the lines of a message history hold.
At every line, the records found and those still to come are together the records of all lines. -/
namespace ScriptTrace.History
open Text
namespace Extractor

/-- The record under construction has only what its state has seen of it. -/
def Tidy (e : Extractor) : Prop :=
  match e.state with
  | .outside | .headed _ => e.pending = .empty
  | .numbered _ => e.pending.messages = []
  | .collecting _ => True

/-- The records still to come when these lines are the next, the one under construction included. -/
def remaining (e : Extractor) (ls : List Text) : List ErrorRecord :=
  match e.state with
  | .outside => blocks none ls
  | .headed place => blocks (some place) ls
  | .numbered place =>
    if ls.takeWhile isMessage = [] then blocks none ls
    else
      ⟨e.pending.throwpoint, ls.takeWhile isMessage⟩ ::
        blocks (some place) (ls.dropWhile isMessage)
  | .collecting place =>
    ⟨e.pending.throwpoint, e.pending.messages ++ ls.takeWhile isMessage⟩ ::
      blocks (some place) (ls.dropWhile isMessage)

private theorem tidy_start : start.Tidy := rfl

private theorem Tidy.feed {e : Extractor} (h : e.Tidy) (line : Text) : (e.feed line).Tidy := by
  obtain ⟨state, pending, records⟩ := e
  cases state <;> cases hk : LineKind.classify (dropReturn line) <;>
    simp_all [Tidy, Extractor.feed, transition, apply, ErrorRecord.empty]

/-- A line only moves records from those to come to those found. -/
theorem Tidy.remaining_feed {e : Extractor} (h : e.Tidy) (line : Text) (ls : List Text) :
    (e.feed line).records ++ (e.feed line).remaining ls =
      e.records ++ e.remaining (dropReturn line :: ls) := by
  obtain ⟨state, pending, records⟩ := e
  -- The sixteen rows of the transition table, and what the reading says in each of them.
  cases state <;> cases hk : LineKind.classify (dropReturn line) <;>
    simp_all [Tidy, Extractor.feed, transition, apply, remaining, blocks, headerPlace?, isMessage]

/-- What is finished and what is still to come are together the same before and after some lines. -/
theorem Tidy.remaining_feedAll {e : Extractor} (h : e.Tidy) (ls : List Text) :
    (e.feedAll ls).records ++ (e.feedAll ls).remaining [] =
      e.records ++ e.remaining (ls.map dropReturn) := by
  induction ls generalizing e with
  | nil => rfl
  | cons line ls ih =>
    calc
      _ = (e.feed line).records ++ (e.feed line).remaining (ls.map dropReturn) := ih (h.feed line)
      _ = _ := h.remaining_feed line _

/-- The end of the history completes the record under construction, if it has a message. -/
theorem finish_eq (e : Extractor) : e.finish = e.records ++ e.remaining [] := by
  have hk : LineKind.classify (dropReturn []) = .other := by decide
  obtain ⟨state, pending, records⟩ := e
  cases state <;> simp [finish, feed, transition, apply, remaining, blocks, hk]

end Extractor

/-- The state machine finds the records that a reader of the whole history would find. -/
theorem extract_eq_blocks (history : Text) :
    extract history = blocks none (historyLines history) := by
  rw [extract, Extractor.finish_eq, Extractor.tidy_start.remaining_feedAll]
  rfl

/-- The records of a history are listed in the order of their line numbers, without one left out. -/
theorem listing_extract (history : Text) :
    Listing (RecordAt (historyLines history)) (extract history) := by
  rw [extract_eq_blocks, ← recordFrom_none]
  exact listing_blocks none _

/-- A message is a line of the history. -/
theorem mem_historyLines_of_mem_messages {history message : Text} {r : ErrorRecord}
    (h : r ∈ extract history) (hm : message ∈ r.messages) : message ∈ historyLines history := by
  obtain ⟨i, place, -, digits, -, -, rfl⟩ := (listing_extract history).mem_iff.1 h
  exact List.mem_of_mem_drop ((List.takeWhile_prefix isMessage).subset hm)

/-- The records of an extraction are those that the lines hold, one for each line number that has
one, in the order of the lines, and nothing else. -/
theorem listing_recordAt_iff (history : Text) (records : List ErrorRecord) :
    Listing (RecordAt (historyLines history)) records ↔ records = extract history := by
  constructor
  · exact fun h => h.unique (listing_extract history)
  · rintro rfl
    exact listing_extract history

end ScriptTrace.History
