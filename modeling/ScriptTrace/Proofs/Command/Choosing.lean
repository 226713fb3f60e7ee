import ScriptTrace.Proofs.Command.Answers
import ScriptTrace.Proofs.Session.Picking
import ScriptTrace.Proofs.Session.Renormalization

/-! One error of a history, chosen at the prompt and shown with its stacktrace.
The first line that decides says which one. Normalizing still loses the stacktrace of a record with
a header or a live mark inside its place. -/
namespace ScriptTrace.Command
open Text Throwpoint History Session

/-- A throwpoint that normalizing does not take for one of another shape. -/
structure Settled (throwpoint : Text) : Prop where
  no_header : ¬ headerMark <+: throwpoint
  no_mark : ¬ liveMark <:+: throwpoint

def askedFor (history : Text) (before : List Text) : Text :=
  Prompt.heading (candidates (History.extract history)) ++ before.flatMap remark

def showChosen (json : Bool) (r : ErrorRecord) (trace : Stacktrace) : Text :=
  (if json then [] else renderMessages r.messages) ++ showTrace json trace

/-- How the choice of one of two errors or more may end, when a reader of lines gives these. -/
inductive Chosen (w : Surroundings) (json : Bool) (history : Text) (lines : List (Option Text)) :
    Report → Prop where
  | nothing {before : List Text} (h : Answers lines before (.ok 0)) :
    Chosen w json history lines
      ⟨0, [], askedFor history before ++ asLine (grey "nothing selected".toList),
        extractLog history⟩
  | outside {before : List Text} {n : Int} (h : Answers lines before (.ok n))
    (hn : n < 0 ∨ ((History.extract history).length : Int) < n) :
    Chosen w json history lines
      ⟨1, [], askedFor history before ++
        renderError (RequestError.invalidSelection n (History.extract history).length).message,
        extractLog history⟩
  | unreadable {before : List Text} {e : QueryError} (h : Answers lines before (.error e)) :
    Chosen w json history lines
      ⟨1, [], askedFor history before ++ renderError (RequestError.query e).message,
        extractLog history⟩
  | built {before : List Text} {i : Nat} {r : ErrorRecord} {trace : Stacktrace} {cache : Cache}
    {events : List Event} (h : Answers lines before (.ok (i + 1 : Nat)))
    (hr : (History.extract history)[i]? = some r) (hs : Settled r.throwpoint)
    (hb : (w.session.buildCanonical r.throwpoint).run .empty = ⟨.ok trace, cache, events⟩) :
    Chosen w json history lines
      ⟨0, showChosen json r trace, askedFor history before,
        extractLog history ++ Event.records events⟩
  /-- What normalizing leaves has a stacktrace, but not the one of the record. -/
  | strayed {before : List Text} {i : Nat} {r : ErrorRecord} {trace : Stacktrace} {cache : Cache}
    {events : List Event} (h : Answers lines before (.ok (i + 1 : Nat)))
    (hr : (History.extract history)[i]? = some r) (hs : ¬ Settled r.throwpoint)
    (hb : (w.session.buildCanonical (normalize r.throwpoint)).run .empty =
      ⟨.ok trace, cache, events⟩)
    (hne : ((w.session.buildCanonical r.throwpoint).run .empty).value ≠ .ok trace) :
    Chosen w json history lines
      ⟨0, showChosen json r trace, askedFor history before,
        extractLog history ++ Event.records events⟩
  /-- What normalizing leaves is no throwpoint any more. -/
  | refused {before : List Text} {i : Nat} {r : ErrorRecord}
    (h : Answers lines before (.ok (i + 1 : Nat)))
    (hr : (History.extract history)[i]? = some r) (hs : ¬ Settled r.throwpoint)
    (hp : parse? (normalize r.throwpoint) = none) :
    Chosen w json history lines
      ⟨1, [], askedFor history before ++
        renderError (RequestError.invalidThrowpoint (normalize r.throwpoint)).message,
        extractLog history⟩

section Throwpoints
variable {history : Text} {r : ErrorRecord}

/-- For a record, to be settled is to be left as it is by the normalization. -/
theorem settled_iff (h : r ∈ History.extract history) :
    Settled r.throwpoint ↔ normalize r.throwpoint = r.throwpoint := by
  obtain ⟨place, digits, he, hd, hn⟩ := throwpoint_of_mem_extract h
  rw [he, normalize_bracketed_eq_self_iff hd hn]
  exact ⟨fun h => ⟨h.no_header, h.no_mark⟩, fun h => ⟨h.1, h.2⟩⟩

private theorem ne_of_not_settled {s : Session} {trace : Stacktrace} {cache cache' : Cache}
    (h : r ∈ History.extract history) (hs : ¬ Settled r.throwpoint)
    (hb : ((s.buildCanonical (normalize r.throwpoint)).run cache).value = .ok trace) :
    ((s.buildCanonical r.throwpoint).run cache').value ≠ .ok trace := by
  intro hc
  obtain ⟨place, digits, he, hd, hn⟩ := throwpoint_of_mem_extract h
  have hnames := names_eq_of_build hb hc
  rw [he] at hnames
  refine hs ((settled_iff h).2 ?_)
  rw [he]
  exact normalize_eq_self_of_names hd hn hnames

end Throwpoints

section Selecting
variable {w : Surroundings} {json : Bool} {history : Text} {input : List (Option Text)}
  {before : List Text} {answer : Except QueryError Int}

private theorem records_pickEvents (chooser : Option Chooser) (history : Text) :
    Event.records (pickEvents chooser history) = extractLog history := by
  rw [pickEvents, Event.records, List.filterMap_append, List.filterMap_map]
  split <;> cases chooser <;> simp

private theorem promptShown_pickEvents (h2 : 2 ≤ (History.extract history).length)
    (ha : Answers (typedLines input) before answer) (chooser : Chooser) :
    promptShown input (pickEvents (some chooser) history) = askedFor history before := by
  have hc : Event.calls (pickEvents (some chooser) history) =
      [.choose (candidates (History.extract history))] := by
    simp [pickEvents, if_pos h2, Event.calls, List.filterMap_append, List.filterMap_map]
  simp only [promptShown, hc, List.flatMap_cons, List.flatMap_nil, List.append_nil, Prompt.run,
    ha.read_eq, askedFor]

private def atPrompt (input : List (Option Text)) : Chooser :=
  fun candidates => (Prompt.run input candidates).answer

private theorem selectWith_atPrompt {choice : Except RequestError (Option ErrorRecord)}
    (ha : Answers (typedLines input) before answer)
    (hp : Picks answer (History.extract history) choice) :
    selectWith (some (atPrompt input)) history .empty =
      ⟨choice, .empty, pickEvents (some (atPrompt input)) history⟩ := by
  have hc : answerTo (some (atPrompt input)) (History.extract history) = answer := by
    simp only [answerTo, atPrompt, Prompt.run, ha.read_eq]
  exact Picks.selectWith_run _ (hc ▸ hp) .empty

/-- The prompt is used up before anything is built, and nothing of it counts but the choice. -/
theorem runSelect_eq_of_picks {choice : Except RequestError (Option ErrorRecord)}
    (h2 : 2 ≤ (History.extract history).length) (ha : Answers (typedLines input) before answer)
    (hp : Picks answer (History.extract history) choice) :
    runSelect w history input json =
      match choice with
      | .error e => ⟨1, [], askedFor history before ++ renderError e.message, extractLog history⟩
      | .ok none =>
        ⟨0, [], askedFor history before ++ asLine (grey "nothing selected".toList),
          extractLog history⟩
      | .ok (some r) =>
        let outcome := (w.session.build r.throwpoint).run .empty
        let log := extractLog history ++ Event.records outcome.events
        match outcome.value with
        | .error e => ⟨1, [], askedFor history before ++ renderError e.message, log⟩
        | .ok trace => ⟨0, showChosen json r trace, askedFor history before, log⟩ := by
  have hs := selectWith_atPrompt ha hp
  have hv := promptShown_pickEvents h2 ha (atPrompt input)
  unfold atPrompt at hs hv
  simp only [runSelect, hs, hv, records_pickEvents]
  cases choice with
  | error e => rfl
  | ok chosen => cases chosen <;> rfl

end Selecting

section Choosing
variable {w : Surroundings} {json : Bool} {history : Text} {input : List (Option Text)}

private theorem exists_chosen_numbered {before : List Text} {i : Nat} {r : ErrorRecord}
    (h : Answers (typedLines input) before (.ok (i + 1 : Nat)))
    (hr : (History.extract history)[i]? = some r) :
    ∃ report, Chosen w json history (typedLines input) report := by
  have hm := List.mem_of_getElem? hr
  by_cases hs : Settled r.throwpoint
  · obtain ⟨trace, hv⟩ := buildCanonical_of_mem_extract hm w.session .empty
    rcases hb : (w.session.buildCanonical r.throwpoint).run .empty with ⟨value, cache, events⟩
    obtain rfl : value = .ok trace := by rw [← hv, hb]
    exact ⟨_, .built h hr hs hb⟩
  · rcases hb : (w.session.buildCanonical (normalize r.throwpoint)).run .empty with
      ⟨_ | trace, cache, events⟩
    · exact ⟨_, .refused h hr hs (parse?_of_buildCanonical_error (congrArg Outcome.value hb))⟩
    · exact ⟨_, .strayed h hr hs hb (ne_of_not_settled hm hs (congrArg Outcome.value hb))⟩

variable (h2 : 2 ≤ (History.extract history).length)
include h2

/-- Each way to choose an error has one report, and the command gives it. -/
theorem Chosen.runSelect_eq {report : Report}
    (h : Chosen w json history (typedLines input) report) :
    runSelect w history input json = report := by
  cases h with
  | nothing h => rw [runSelect_eq_of_picks h2 h (.cancelled h2 rfl)]
  | outside h hn => rw [runSelect_eq_of_picks h2 h (.outside h2 rfl hn)]
  | unreadable h => rw [runSelect_eq_of_picks h2 h (.failed h2 rfl)]
  | built h hr hs hb =>
    rw [runSelect_eq_of_picks h2 h (.numbered h2 rfl hr)]
    simp only [Session.build, (settled_iff (List.mem_of_getElem? hr)).1 hs, hb]
  | strayed h hr hs hb hne =>
    rw [runSelect_eq_of_picks h2 h (.numbered h2 rfl hr)]
    simp only [Session.build, hb]
  | refused h hr hs hp =>
    rw [runSelect_eq_of_picks h2 h (.numbered h2 rfl hr)]
    simp only [Session.build, w.session.buildCanonical_refuses hp, Event.records,
      List.filterMap_nil, List.append_nil]

variable (w json input)

private theorem exists_chosen : ∃ report, Chosen w json history (typedLines input) report := by
  obtain ⟨before, answer, h⟩ := exists_answers (typedLines input)
  obtain ⟨choice, hp⟩ := exists_picks answer (History.extract history)
  cases hp with
  | nothing h0 => simp [h0] at h2
  | only h1 => simp [h1] at h2
  | failed _ ha => exact ⟨_, .unreadable (ha ▸ h)⟩
  | cancelled _ ha => exact ⟨_, .nothing (ha ▸ h)⟩
  | numbered _ ha hr => exact exists_chosen_numbered (ha ▸ h) hr
  | outside _ ha hn => exact ⟨_, .outside (ha ▸ h) hn⟩

end Choosing

section Command
variable {w : Surroundings} {file : Option Text} {history : Text}

private theorem runErrors_select (hw : w.history file = .ok history) (json : Bool) :
    runErrors w file json true = runSelect w history (w.promptLines file) json := by
  simp only [runErrors, hw, if_true]

/-- Where there is a choice, the first line that decides tells how the command ends. The record with
its number gets its own stacktrace exactly when normalizing leaves its throwpoint alone. -/
theorem runErrors_select_iff (hw : w.history file = .ok history)
    (h2 : 2 ≤ (History.extract history).length) (json : Bool) (report : Report) :
    runErrors w file json true = report ↔
      Chosen w json history (typedLines (w.promptLines file)) report := by
  rw [runErrors_select hw]
  constructor
  · rintro rfl
    obtain ⟨report, h⟩ := exists_chosen w json (w.promptLines file) h2
    rwa [h.runSelect_eq h2]
  · exact Chosen.runSelect_eq h2

end Command

def Surroundings.given (history stdin : Text) : Surroundings where
  read path := if path = "messages".toList then .ok (Utf8.encode history) else .error .notFound
  input := Utf8.encode stdin
  home := none

private theorem history_given (history stdin : Text) :
    (Surroundings.given history stdin).history (some "messages".toList) = .ok history := by
  simp only [Surroundings.history, Surroundings.given, FileReader.text, if_true, Utf8.decode?_encode]

/-- Without the file of a throwpoint there is one frame with nothing but its position. -/
theorem buildCanonical_given {history stdin throwpoint place : Text} {line : Nat}
    (hp : parse? throwpoint = some (.file ⟨place, line⟩)) (hm : place ≠ "messages".toList) :
    ((Surroundings.given history stdin).session.buildCanonical throwpoint).run .empty =
      ⟨.ok ⟨[Frame.ofFile place line]⟩, .empty,
        [.read place, .log ⟨.debug, .builder,
          "could not read ".toList ++ place ++ ": ".toList ++ FileError.notFound.message⟩]⟩ := by
  have hr : (Surroundings.given history stdin).session.host.read place = .error .notFound :=
    if_neg hm
  simp only [buildCanonical, hp, fileFrame, hr]
  rfl

private theorem typedLines_given {history stdin : Text} (h : '\x08' ∉ stdin) :
    typedLines ((Surroundings.given history stdin).promptLines (some "messages".toList)) =
      (lines stdin).map some :=
  typedLines_encode h

theorem runErrors_select_second :
    let history := "Error detected while processing /a.vim:\nline 3:\nE1: x\n".toList ++
      "Error detected while processing /b.vim:\nline 4:\nE2: y".toList
    let w := Surroundings.given history "x\n9223372036854775808\n +2 \n1\n".toList
    w.history (some "messages".toList) = .ok history ∧
      2 ≤ (History.extract history).length ∧
      runErrors w (some "messages".toList) false true =
        ⟨0, showChosen false ⟨"/b.vim[4]".toList, ["E2: y".toList]⟩
            ⟨[Frame.ofFile "/b.vim".toList 4]⟩,
          askedFor history ["x".toList, "9223372036854775808".toList],
          extractLog history ++ [⟨.debug, .builder, "could not read ".toList ++
            "/b.vim".toList ++ ": ".toList ++ FileError.notFound.message⟩]⟩ := by
  intro history w
  have he : History.extract history =
      [⟨"/a.vim[3]".toList, ["E1: x".toList]⟩, ⟨"/b.vim[4]".toList, ["E2: y".toList]⟩] := by
    decide +kernel
  have h2 : 2 ≤ (History.extract history).length := by rw [he]; decide
  refine ⟨history_given _ _, h2, (runErrors_select_iff (history_given _ _) h2 false _).2 ?_⟩
  have hl : typedLines (w.promptLines (some "messages".toList)) =
      ["x".toList, "9223372036854775808".toList].map some ++
        some " +2 ".toList :: [some "1".toList] := by
    rw [typedLines_given (by decide)]
    decide +kernel
  have hu : ∀ line ∈ ["x".toList, "9223372036854775808".toList], Undecided line := by
    simp only [undecided_iff]
    decide +kernel
  obtain ⟨hs, hlow, hhigh⟩ := signed?_eq_some_iff.1
    (show signed? (trim " +2 ".toList) = some ((1 + 1 : Nat) : Int) by decide +kernel)
  have hp : parse? "/b.vim[4]".toList = some (.file ⟨"/b.vim".toList, 4⟩) := by decide +kernel
  have hc : Chosen w false history _ _ :=
    .built (.number ⟨hl, hu⟩ hs hlow hhigh) (by rw [he]; rfl)
      ⟨by decide +kernel, by decide +kernel⟩ (buildCanonical_given hp (by decide))
  exact hc

theorem runErrors_select_fails :
    let history := "Error detected while processing /tmp/a, line 3.vim:\nline 5:\nE1: x\n".toList ++
      "Error detected while processing /b.vim:\nline 4:\nE2: y".toList
    let w := Surroundings.given history "1\n".toList
    w.history (some "messages".toList) = .ok history ∧
      History.extract history =
        [⟨"/tmp/a, line 3.vim[5]".toList, ["E1: x".toList]⟩,
          ⟨"/b.vim[4]".toList, ["E2: y".toList]⟩] ∧
      Answers (typedLines (w.promptLines (some "messages".toList))) [] (.ok 1) ∧
      ((w.session.buildCanonical "/tmp/a, line 3.vim[5]".toList).run .empty).value =
        .ok ⟨[Frame.ofFile "/tmp/a, line 3.vim".toList 5]⟩ ∧
      runErrors w (some "messages".toList) false true =
        ⟨1, [], askedFor history [] ++
          renderError (RequestError.invalidThrowpoint "/tmp/a[3.vim[5]]".toList).message,
          extractLog history⟩ := by
  intro history w
  have he : History.extract history =
      [⟨"/tmp/a, line 3.vim[5]".toList, ["E1: x".toList]⟩,
        ⟨"/b.vim[4]".toList, ["E2: y".toList]⟩] := by
    decide +kernel
  have h2 : 2 ≤ (History.extract history).length := by rw [he]; decide
  have hl : typedLines (w.promptLines (some "messages".toList)) =
      [].map some ++ [some "1".toList] := by
    rw [typedLines_given (by decide)]
    decide +kernel
  obtain ⟨hs, hlow, hhigh⟩ := signed?_eq_some_iff.1
    (show signed? (trim "1".toList) = some 1 by decide +kernel)
  have ha : Answers (typedLines (w.promptLines (some "messages".toList))) [] (.ok 1) :=
    .number ⟨hl, nofun⟩ hs hlow hhigh
  have hp : parse? "/tmp/a, line 3.vim[5]".toList =
      some (.file ⟨"/tmp/a, line 3.vim".toList, 5⟩) := by
    decide +kernel
  refine ⟨history_given _ _, he, ha, ?_, ?_⟩
  · exact congrArg Outcome.value (buildCanonical_given hp (by decide))
  · have hn : Throwpoint.normalize "/tmp/a, line 3.vim[5]".toList = "/tmp/a[3.vim[5]]".toList := by
      rw [Throwpoint.normalize, stripHeaders_eq_self (by decide)]
      decide +kernel
    have hc : Chosen w false history (typedLines (w.promptLines (some "messages".toList))) _ :=
      .refused (i := 0) ha (by rw [he]; rfl) (fun h => h.no_mark (by decide +kernel))
        (by rw [hn]; decide +kernel)
    rw [runErrors_select (history_given _ _), hc.runSelect_eq h2, hn]

end ScriptTrace.Command
