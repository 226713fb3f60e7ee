import ScriptTrace.Proofs.Session.Refusals
import ScriptTrace.Session.Requests

/-! The stacktrace of an error that is picked from the editor's message history.
What is picked decides what is built, and a request that picks nothing asks for nothing more. -/
namespace ScriptTrace

private theorem Stacktrace.modifyLast_append (front : List Frame) (last : Frame)
    (f : Frame → Frame) : modifyLast ⟨front ++ [last]⟩ f = ⟨front ++ [f last]⟩ := by
  simp [modifyLast]

namespace Session
open ScriptTrace.Action Text History

/-- What picking one of some records comes to, when a chooser would give this answer. It is asked
only about two records or more, and numbers them from one. -/
inductive Picks (answer : Except QueryError Int) (records : List ErrorRecord) :
    Except RequestError (Option ErrorRecord) → Prop where
  | nothing (h : records = []) : Picks answer records (.ok none)
  | only {r : ErrorRecord} (h : records = [r]) : Picks answer records (.ok (some r))
  | failed {e : QueryError} (h : 2 ≤ records.length) (ha : answer = .error e) :
    Picks answer records (.error (.query e))
  | cancelled (h : 2 ≤ records.length) (ha : answer = .ok 0) : Picks answer records (.ok none)
  | numbered {i : Nat} {r : ErrorRecord} (h : 2 ≤ records.length) (ha : answer = .ok (i + 1 : Nat))
    (hr : records[i]? = some r) : Picks answer records (.ok (some r))
  | outside {n : Int} (h : 2 ≤ records.length) (ha : answer = .ok n)
    (hn : n < 0 ∨ (records.length : Int) < n) :
    Picks answer records (.error (.invalidSelection n records.length))

def answerTo (chooser : Option Chooser) (records : List ErrorRecord) : Except QueryError Int :=
  match chooser with
  | none => .ok 0
  | some choose => choose (candidates records)

def pickEvents (chooser : Option Chooser) (history : Text) : List Event :=
  let records := History.extract history
  (extractLog history).map .log ++
    if 2 ≤ records.length then chooser.toList.map fun _ => .call (.choose (candidates records))
    else []

/-- Every answer of a chooser comes to some choice. -/
theorem exists_picks (answer : Except QueryError Int) (records : List ErrorRecord) :
    ∃ choice, Picks answer records choice := by
  rcases records with _ | ⟨r, _ | ⟨r', rest⟩⟩
  · exact ⟨_, .nothing rfl⟩
  · exact ⟨_, .only rfl⟩
  · have h : 2 ≤ (r :: r' :: rest).length := by simp
    generalize r :: r' :: rest = records at h
    cases answer with
    | error e => exact ⟨_, .failed h rfl⟩
    | ok n =>
      rcases Int.lt_trichotomy n 0 with hn | rfl | hn
      · exact ⟨_, .outside h rfl (.inl hn)⟩
      · exact ⟨_, .cancelled h rfl⟩
      · obtain ⟨i, rfl⟩ : ∃ i : Nat, n = (i + 1 : Nat) := ⟨n.toNat - 1, by omega⟩
        by_cases hi : i < records.length
        · exact ⟨_, .numbered h rfl (List.getElem?_eq_getElem hi)⟩
        · exact ⟨_, .outside h rfl (.inr (by omega))⟩

private theorem chosen_succ {records : List ErrorRecord} {i : Nat} {r : ErrorRecord}
    (hr : records[i]? = some r) : chosen records (i + 1 : Nat) = .ok (some r) := by
  obtain ⟨hi, -⟩ := List.getElem?_eq_some_iff.1 hr
  rw [chosen, if_neg (by omega), if_pos (by omega), Int.toNat_natCast, Nat.add_sub_cancel, hr]

private theorem chosen_outside {records : List ErrorRecord} {n : Int}
    (hn : n < 0 ∨ (records.length : Int) < n) :
    chosen records n = .error (.invalidSelection n records.length) := by
  rw [chosen, if_neg (by omega), if_neg (by omega)]

private theorem extract_run (history : Text) (cache : Cache) :
    (Session.extract history).run cache =
      ⟨History.extract history, cache, (extractLog history).map .log⟩ := by
  refine congrArg (Outcome.mk _ _) ?_
  exact List.append_nil _

section Selection
variable (chooser : Option Chooser) {history : Text}

/-- The chooser is asked about two records or more. -/
theorem selectWith_run_of_two_le (h : 2 ≤ (History.extract history).length) (cache : Cache) :
    (selectWith chooser history).run cache =
      ⟨match answerTo chooser (History.extract history) with
        | .error e => .error (.query e)
        | .ok n => chosen (History.extract history) n,
        cache, pickEvents chooser history⟩ := by
  rw [selectWith, run_bind, extract_run, pickEvents, if_pos h]
  generalize History.extract history = records at h ⊢
  rcases records with _ | ⟨r, _ | ⟨r', rest⟩⟩
  · simp at h
  · simp at h
  · cases chooser with
    | none => rfl
    | some choose =>
      dsimp only [answerTo, run_bind, ask]
      cases choose (candidates (r :: r' :: rest)) with
      | error e => rfl
      | ok n => rfl

/-- Picking an error leaves the cache alone. -/
theorem Picks.selectWith_run {choice : Except RequestError (Option ErrorRecord)}
    (h : Picks (answerTo chooser (History.extract history)) (History.extract history) choice)
    (cache : Cache) :
    (selectWith chooser history).run cache = ⟨choice, cache, pickEvents chooser history⟩ := by
  cases h with
  | nothing h => simp [selectWith, run_bind, extract_run, pickEvents, h]
  | only h => simp [selectWith, run_bind, extract_run, pickEvents, h]
  | failed h ha => rw [selectWith_run_of_two_le chooser h, ha]
  | cancelled h ha => rw [selectWith_run_of_two_le chooser h, ha]; rfl
  | numbered h ha hr => simp only [selectWith_run_of_two_le chooser h, ha, chosen_succ hr]
  | outside h ha hn => simp only [selectWith_run_of_two_le chooser h, ha, chosen_outside hn]

end Selection

section Requests
variable (s : Session)

def Picked (history : Text) (choice : Except RequestError (Option ErrorRecord)) : Prop :=
  s.host.evaluate Host.historyExpression = .ok history ∧
    Picks (answerTo s.chooser (History.extract history)) (History.extract history) choice

def inquiry (history : Text) : List Event :=
  .call (.evaluate Host.historyExpression) :: pickEvents s.chooser history

private theorem evaluate_run {s : Session} {history : Text}
    (h : s.host.evaluate Host.historyExpression = .ok history) (cache : Cache) :
    (s.evaluate Host.historyExpression).run cache =
      ⟨.ok history, cache, [.call (.evaluate Host.historyExpression)]⟩ := by
  rw [evaluate, h]
  rfl

/-- How a request for the stacktrace of an error in the editor's history may end, the cache and the
events included. -/
inductive FromHistory (cache : Cache) : Outcome (Except RequestError (Option Stacktrace)) → Prop where
  | unavailable {e : QueryError} (h : s.host.evaluate Host.historyExpression = .error e) :
    FromHistory cache ⟨.error (.query e), cache, [.call (.evaluate Host.historyExpression)]⟩
  | unpicked {history : Text} {e : RequestError} (h : s.Picked history (.error e)) :
    FromHistory cache ⟨.error e, cache, s.inquiry history⟩
  | nothing {history : Text} (h : s.Picked history (.ok none)) :
    FromHistory cache ⟨.ok none, cache, s.inquiry history⟩
  | refused {history : Text} {r : ErrorRecord} {e : RequestError} {after : Cache}
    {events : List Event} (h : s.Picked history (.ok (some r)))
    (hb : (s.build r.throwpoint).run cache = ⟨.error e, after, events⟩) :
    FromHistory cache ⟨.error e, after, s.inquiry history ++ events⟩
  | built {history : Text} {r : ErrorRecord} {front : List Frame} {last : Frame} {after : Cache}
    {events : List Event} (h : s.Picked history (.ok (some r)))
    (hb : (s.build r.throwpoint).run cache = ⟨.ok ⟨front ++ [last]⟩, after, events⟩) :
    FromHistory cache
      ⟨.ok (some ⟨front ++
        [{ last with text := join ", ".toList r.messages ++ " : ".toList ++ last.text }]⟩),
        after, s.inquiry history ++ events⟩

section Picked
variable {s} {history : Text}

theorem Picked.run_error {e : RequestError} (h : s.Picked history (.error e)) (cache : Cache) :
    s.fromHistory.run cache = ⟨.error e, cache, s.inquiry history⟩ := by
  have hs := h.2.selectWith_run s.chooser cache
  simp [fromHistory, run_bind, evaluate_run h.1, selectError, hs, inquiry]

theorem Picked.run_none (h : s.Picked history (.ok none)) (cache : Cache) :
    s.fromHistory.run cache = ⟨.ok none, cache, s.inquiry history⟩ := by
  have hs := h.2.selectWith_run s.chooser cache
  simp [fromHistory, run_bind, evaluate_run h.1, selectError, hs, inquiry]

/-- The messages of the record that was picked go in front of the innermost text. -/
theorem Picked.run_some {r : ErrorRecord} (h : s.Picked history (.ok (some r))) {cache after : Cache}
    {result : Except RequestError Stacktrace} {events : List Event}
    (hb : (s.build r.throwpoint).run cache = ⟨result, after, events⟩) :
    s.fromHistory.run cache =
      ⟨result.map fun trace => some (annotate r trace), after, s.inquiry history ++ events⟩ := by
  have hs := h.2.selectWith_run s.chooser cache
  cases result <;>
    simp [fromHistory, run_bind, evaluate_run h.1, selectError, hs, hb, inquiry, Except.map]

end Picked

/-- Each outcome that the relation tells is the one of the run. -/
theorem FromHistory.run_eq {cache : Cache}
    {outcome : Outcome (Except RequestError (Option Stacktrace))} (h : s.FromHistory cache outcome) :
    s.fromHistory.run cache = outcome := by
  cases h with
  | unavailable h =>
    rw [fromHistory, run_bind, evaluate, h]
    rfl
  | unpicked h => exact h.run_error cache
  | nothing h => exact h.run_none cache
  | refused h hb => exact h.run_some hb
  | built h hb =>
    rw [h.run_some hb]
    simp only [Except.map, annotate, Stacktrace.modifyLast_append, ErrorRecord.summary]

private theorem exists_fromHistory (cache : Cache) : ∃ outcome, s.FromHistory cache outcome := by
  cases hh : s.host.evaluate Host.historyExpression with
  | error e => exact ⟨_, .unavailable hh⟩
  | ok history =>
    obtain ⟨choice, hp⟩ :=
      exists_picks (answerTo s.chooser (History.extract history)) (History.extract history)
    match choice with
    | .error e => exact ⟨_, .unpicked ⟨hh, hp⟩⟩
    | .ok none => exact ⟨_, .nothing ⟨hh, hp⟩⟩
    | .ok (some r) =>
      rcases hb : (s.build r.throwpoint).run cache with ⟨_ | trace, after, events⟩
      · exact ⟨_, .refused ⟨hh, hp⟩ hb⟩
      · obtain ⟨_, _, _, hne⟩ := frames_of_buildCanonical (congrArg Outcome.value hb)
        obtain ⟨front, last, hf⟩ := (List.eq_nil_or_concat trace.frames).resolve_left hne
        obtain rfl : trace = ⟨front ++ [last]⟩ := congrArg Stacktrace.mk (hf.trans List.concat_eq_append)
        exact ⟨_, .built ⟨hh, hp⟩ hb⟩

/-- A request for the stacktrace of an error in the editor's history ends in one of five ways, and
while nothing is picked no function is described, no file indexed and none read. -/
theorem fromHistory_run_iff (cache : Cache) :
    (∀ outcome, s.fromHistory.run cache = outcome ↔ s.FromHistory cache outcome) ∧
    ∀ history name path, .call (.describe name) ∉ s.inquiry history ∧
      .call (.index path) ∉ s.inquiry history ∧ .read path ∉ s.inquiry history := by
  constructor
  · intro outcome
    constructor
    · rintro rfl
      obtain ⟨outcome, h⟩ := s.exists_fromHistory cache
      rwa [h.run_eq]
    · exact FromHistory.run_eq s
  · intro history name path
    simp [inquiry, pickEvents]

end Requests
end Session
end ScriptTrace
