import ScriptTrace.Proofs.History.Throwpoints

/-! The record under construction, and the records that are complete.
What a state says has been read is what the record has, so nothing of a block that broke off is left
in a later record. -/
namespace ScriptTrace.History
open Text

/-- What the record under construction has got in a state. -/
def Underway : State → ErrorRecord → Prop
  | .outside, r => r = .empty
  | .headed _, r => r = .empty
  | .numbered place, r =>
    ∃ digits, isDigits digits = true ∧ r = ⟨Throwpoint.bracketed place digits, []⟩
  | .collecting place, r =>
    ∃ digits, isDigits digits = true ∧ r.throwpoint = Throwpoint.bracketed place digits ∧
      r.messages ≠ [] ∧ ∀ m ∈ r.messages, isMessage m = true

/-- A record has all its parts: digits in brackets behind a place, and messages. -/
structure Complete (r : ErrorRecord) : Prop where
  located : ∃ place digits, isDigits digits = true ∧ r.throwpoint = Throwpoint.bracketed place digits
  messages_ne_nil : r.messages ≠ []
  isMessage_of_mem : ∀ m ∈ r.messages, isMessage m = true

private theorem Underway.complete {place : Text} {r : ErrorRecord}
    (h : Underway (.collecting place) r) : Complete r := by
  obtain ⟨digits, hd, ht, hne, hm⟩ := h
  exact ⟨⟨place, digits, hd, ht⟩, hne, hm⟩

namespace Extractor

/-- The record that a line completes. Any line does after a message, but another message. -/
def completed (e : Extractor) (line : Text) : List ErrorRecord :=
  match e.state with
  | .collecting _ => if isMessage (dropReturn line) then [] else [e.pending]
  | _ => []

private theorem length_completed_le (e : Extractor) (line : Text) :
    (e.completed line).length ≤ 1 := by
  rw [completed]
  split
  · split <;> simp
  · simp

/-- A line leaves the complete records as they are, and adds the one that it completes. -/
theorem records_feed (e : Extractor) (line : Text) :
    (e.feed line).records = e.records ++ e.completed line := by
  obtain ⟨state, pending, records⟩ := e
  cases state <;> cases hk : LineKind.classify (dropReturn line) <;>
    simp [feed, transition, apply, completed, isMessage, hk]

/-- The record under construction fits the state, and the others are complete. -/
structure Sound (e : Extractor) : Prop where
  underway : Underway e.state e.pending
  complete : ∀ r ∈ e.records, Complete r

private theorem sound_start : start.Sound where
  underway := rfl
  complete := List.forall_mem_nil _

/-- After each kind of line, the record under construction fits the state that the line leads to. -/
theorem underway_feed {e : Extractor} (h : Underway e.state e.pending) (line : Text) :
    Underway (e.feed line).state (e.feed line).pending := by
  obtain ⟨state, pending, records⟩ := e
  unfold feed transition
  generalize hk : LineKind.classify (dropReturn line) = kind
  cases state with
  | outside => cases kind <;> exact h
  | headed place =>
    cases kind with
    | lineNumber digits =>
      obtain rfl : pending = .empty := h
      exact ⟨digits, isDigits_of_classify_lineNumber hk, rfl⟩
    | header _ => rfl
    | errorCode => rfl
    | other => rfl
  | numbered place =>
    cases kind with
    | errorCode =>
      obtain ⟨digits, hd, he⟩ := h
      obtain rfl : pending = ⟨Throwpoint.bracketed place digits, []⟩ := he
      exact ⟨digits, hd, rfl, List.cons_ne_nil _ _, List.forall_mem_singleton.2 (isMessage_iff.2 hk)⟩
    | header _ => rfl
    | lineNumber _ => rfl
    | other => rfl
  | collecting place =>
    cases kind with
    | errorCode =>
      obtain ⟨digits, hd, ht, -, hm⟩ := h
      refine ⟨digits, hd, ht, List.concat_ne_nil _ _, ?_⟩
      exact List.forall_mem_append.2 ⟨hm, List.forall_mem_singleton.2 (isMessage_iff.2 hk)⟩
    | lineNumber digits => exact ⟨digits, isDigits_of_classify_lineNumber hk, rfl⟩
    | header _ => rfl
    | other => rfl

private theorem complete_of_mem_completed {e : Extractor} (h : Underway e.state e.pending)
    {line : Text} {r : ErrorRecord} (hr : r ∈ e.completed line) : Complete r := by
  obtain ⟨state, pending, records⟩ := e
  cases state with
  | collecting place =>
    by_cases hm : isMessage (dropReturn line) = true
    · simp [completed, hm] at hr
    · obtain rfl : r = pending := by simpa [completed, hm] using hr
      exact h.complete
  | outside => cases hr
  | headed place => cases hr
  | numbered place => cases hr

private theorem Sound.feed {e : Extractor} (h : e.Sound) (line : Text) : (e.feed line).Sound where
  underway := underway_feed h.underway line
  complete r hr := by
    rw [records_feed] at hr
    rcases List.mem_append.1 hr with hr | hr
    · exact h.complete r hr
    · exact complete_of_mem_completed h.underway hr

/-- Any number of lines keeps the records sound. -/
theorem Sound.feedAll {e : Extractor} (h : e.Sound) (lines : List Text) :
    (e.feedAll lines).Sound := by
  induction lines generalizing e with
  | nil => exact h
  | cons line rest ih => exact ih (h.feed line)

/-- After any lines, the record under construction has exactly what its state has read, and every
record found has all its parts. One more line adds at most one record behind those that were found,
and so does the end. -/
theorem sound_feedAll (lines : List Text) :
    let e := start.feedAll lines
    Underway e.state e.pending ∧ (∀ r ∈ e.records, Complete r) ∧ (∀ r ∈ e.finish, Complete r) ∧
    (∀ line, ∃ added, (e.feed line).records = e.records ++ added ∧ added.length ≤ 1) ∧
    ∃ added, e.finish = e.records ++ added ∧ added.length ≤ 1 := by
  intro e
  have he : e.Sound := sound_start.feedAll lines
  have hadd (line : Text) :
      ∃ added, (e.feed line).records = e.records ++ added ∧ added.length ≤ 1 :=
    ⟨e.completed line, e.records_feed line, e.length_completed_le line⟩
  exact ⟨he.underway, he.complete, (he.feed []).complete, hadd, hadd []⟩

end Extractor
end ScriptTrace.History
