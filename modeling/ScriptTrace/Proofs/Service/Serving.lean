import ScriptTrace.Command.Run
import ScriptTrace.Proofs.Command.Lines
import ScriptTrace.Proofs.Json.Reading
import ScriptTrace.Proofs.Json.Writing
import ScriptTrace.Proofs.Session.Independence

/-! The answers of the editor's channel over a whole run.
Each line that asks for an answer has one, in the order of the lines, and no other line has any. -/
namespace ScriptTrace
open Text

/-- The line is a message with a number above zero. -/
def Asks (line : Text) (number : Int) (body : Json) : Prop :=
  Json.read? line = some (.array [.whole number, body]) ∧ 0 < number ∧ number < 2 ^ 63

/-- A line is a message if it writes a pair of a number of 64 bits and a value. -/
theorem Message.parse?_eq_some_iff {line : Text} {number : Int} {body : Json} :
    parse? line = some ⟨number, body⟩ ↔
      Json.read? line = some (.array [.whole number, body]) ∧ number < 2 ^ 63 := by
  have hl : numberLimit = 2 ^ 63 := rfl
  unfold parse?
  split
  · next n b hr =>
    rw [hr, hl]
    split_ifs with hn
    · constructor
      · rintro ⟨⟩
        exact ⟨rfl, hn⟩
      · rintro ⟨⟨⟩, -⟩
        rfl
    · refine ⟨nofun, ?_⟩
      rintro ⟨⟨⟩, h⟩
      exact absurd h hn
  · next hr => exact ⟨nofun, fun h => absurd h.1 (hr number body)⟩

namespace Session
open ScriptTrace.Action
variable (s : Session)

def reply (line : Text) : Action (Option Text) :=
  if trim line = [] then pure none else s.respond line

def answerLine (number : Int) (body : Json) : Text :=
  (Json.array [.whole number, ((s.handle body).run .empty).value]).write

/-- The lines have these answers, each that of a session just built. -/
inductive Answered : List Text → List Text → Prop where
  | done : Answered [] []
  | asked {line : Text} {number : Int} {body : Json} {rest answers : List Text}
    (h : Asks line number body) (ha : Answered rest answers) :
    Answered (line :: rest) (s.answerLine number body :: answers)
  | passed {line : Text} {rest answers : List Text} (h : ∀ number body, ¬ Asks line number body)
    (ha : Answered rest answers) : Answered (line :: rest) answers

theorem serve_cons (line : Text) (rest : List Text) :
    s.serve (line :: rest) = do
      let answer ← s.reply line
      let answers ← s.serve rest
      return answer.toList ++ answers := by
  rw [serve, reply]
  split <;> rfl

section Lines
variable {s} {line : Text} {number : Int} {body : Json}

private theorem reply_of_read? (h : Json.read? line = some (.array [.whole number, body])) :
    s.reply line = s.respond line := by
  refine if_neg fun hb => ?_
  rw [Json.read?_blank (isBlank_of_trim_eq_nil hb)] at h
  cases h

private theorem reply_of_asks (h : Asks line number body) (cache : Cache) :
    ((s.reply line).run cache).value = some (s.answerLine number body) := by
  have hp := Message.parse?_eq_some_iff.2 ⟨h.1, h.2.2⟩
  have hv := (s.oblivious_handle body cache .empty).1
  rw [reply_of_read? h.1, respond, hp]
  dsimp only
  rw [if_neg (Int.not_le.2 h.2.1), run_bind, hv]
  rfl

private theorem reply_of_not_asks (h : ∀ number body, ¬ Asks line number body) (cache : Cache) :
    ((s.reply line).run cache).value = none := by
  unfold reply respond
  split
  · rfl
  · cases hp : Message.parse? line with
    | none => rfl
    | some message =>
      obtain ⟨hr, hl⟩ := Message.parse?_eq_some_iff.1 hp
      have hn : message.number ≤ 0 := Int.not_lt.1 fun h0 => h _ _ ⟨hr, h0, hl⟩
      dsimp only
      rw [if_pos hn]
      rfl

private theorem reply_of_notification (h : Json.read? line = some (.array [.whole number, body]))
    (hn : number ≤ 0) : s.reply line = pure none := by
  have hp := Message.parse?_eq_some_iff.2 ⟨h, by omega⟩
  rw [reply_of_read? h, respond, hp]
  exact if_pos hn

end Lines

section Runs
variable {s} {lines more answers answers' : List Text}

private theorem exists_answered (s : Session) (lines : List Text) :
    ∃ answers, s.Answered lines answers := by
  induction lines with
  | nil => exact ⟨_, .done⟩
  | cons line rest ih =>
    obtain ⟨answers, ha⟩ := ih
    by_cases h : ∃ number body, Asks line number body
    · obtain ⟨number, body, h⟩ := h
      exact ⟨_, .asked h ha⟩
    · exact ⟨_, .passed (fun number body ha => h ⟨number, body, ha⟩) ha⟩

/-- The answers that the lines ask for are given in order, whatever the cache has. -/
theorem Answered.serve_value (h : s.Answered lines answers) (cache : Cache) :
    ((s.serve lines).run cache).value = answers := by
  induction h generalizing cache with
  | done => rfl
  | asked h _ ih =>
    rw [serve_cons, run_bind, run_bind, reply_of_asks h, ih]
    rfl
  | passed h _ ih =>
    rw [serve_cons, run_bind, run_bind, reply_of_not_asks h, ih]
    rfl

theorem Answered.append (h : s.Answered lines answers) (h' : s.Answered more answers') :
    s.Answered (lines ++ more) (answers ++ answers') := by
  induction h with
  | done => exact h'
  | asked h _ ih => exact .asked h ih
  | passed h _ ih => exact .passed h ih

private theorem Answered.inLine (h : s.Answered lines answers) : ∀ a ∈ answers, InLine a := by
  induction h with
  | done => exact List.forall_mem_nil _
  | asked _ _ ih => exact List.forall_mem_cons.2 ⟨Json.inLine_write _, ih⟩
  | passed _ _ ih => exact ih

/-- Lines can be answered in two turns. -/
theorem serve_append_value (s : Session) (lines more : List Text) (cache : Cache) :
    ((s.serve (lines ++ more)).run cache).value =
      ((s.serve lines).run cache).value ++ ((s.serve more).run cache).value := by
  obtain ⟨answers, h⟩ := s.exists_answered lines
  obtain ⟨answers', h'⟩ := s.exists_answered more
  rw [(h.append h').serve_value, h.serve_value, h'.serve_value]

private theorem serve_notification {line : Text} {number : Int} {body : Json}
    (h : Json.read? line = some (.array [.whole number, body])) (hn : number ≤ 0)
    (front rest : List Text) : s.serve (front ++ line :: rest) = s.serve (front ++ rest) := by
  induction front with
  | nil =>
    rw [List.nil_append, List.nil_append, serve_cons, reply_of_notification h hn, pure_bind]
    exact bind_pure _
  | cons first front ih => rw [List.cons_append, List.cons_append, serve_cons, serve_cons, ih]

end Runs

/-- The command writes the answers on lines of their own. -/
theorem runServe_of_answered {read : FileReader} {home : Option Text} {input : Text}
    {answers : List Text} (h : (Session.offline read home).Answered (lines input) answers) :
    ∃ log, Command.runServe ⟨read, Utf8.encode input, home⟩ =
      .success (answers.flatMap Command.asLine) log := by
  simp only [Command.runServe, Command.inputLines_encode, Command.goodLines_map_some,
    Command.Surroundings.session]
  exact ⟨_, by rw [← h.serve_value .empty]; rfl⟩

/-- Whatever was asked before, exactly the lines that ask for an answer have one, in their order. So
the answers to two runs follow each other, a message without a number above zero could as well be
left out, and the lines that the command writes are the answers to those of its input. -/
theorem serve_answers (s : Session) (cache : Cache) :
    (∀ given answers, ((s.serve given).run cache).value = answers ↔ s.Answered given answers) ∧
    (∀ given more, ((s.serve (given ++ more)).run cache).value =
      ((s.serve given).run cache).value ++ ((s.serve more).run cache).value) ∧
    (∀ front line rest number body, Json.read? line = some (.array [.whole number, body]) →
      number ≤ 0 → s.serve (front ++ line :: rest) = s.serve (front ++ rest)) ∧
    ∀ read home input, ∃ answers log, (Session.offline read home).Answered (lines input) answers ∧
      Command.runServe ⟨read, Utf8.encode input, home⟩ =
        .success (answers.flatMap Command.asLine) log ∧
      lines (answers.flatMap Command.asLine) = answers := by
  refine ⟨?_, fun given more => s.serve_append_value given more cache, ?_, ?_⟩
  · intro given answers
    constructor
    · rintro rfl
      obtain ⟨answers, h⟩ := s.exists_answered given
      rwa [h.serve_value]
    · exact fun h => h.serve_value cache
  · intro front line rest number body h hn
    exact serve_notification h hn front rest
  · intro read home input
    obtain ⟨answers, h⟩ := (Session.offline read home).exists_answered (lines input)
    obtain ⟨log, hr⟩ := runServe_of_answered h
    have hl : ∀ a ∈ answers, '\n' ∉ a ∧ '\r' ∉ a := fun a ha =>
      ⟨(h.inLine a ha).notMem (by decide), (h.inLine a ha).notMem (by decide)⟩
    exact ⟨answers, log, h, hr, Command.lines_flatMap_asLine hl⟩

end Session
end ScriptTrace
