import ScriptTrace.Proofs.Session.Picking

/-! One error of a history, chosen by the number it is shown with.
The numbers a chooser may answer with are all integers, and the records are counted from one. -/
namespace ScriptTrace.Session
open Text History

/-- What a number chooses among some records: none of them, the one with this number, or nothing
that is there. -/
structure Chooses (records : List ErrorRecord) (number : Int)
    (value : Except RequestError (Option ErrorRecord)) : Prop where
  none_iff : value = .ok none ↔ number = 0
  some_iff (r : ErrorRecord) : value = .ok (some r) ↔
    1 ≤ number ∧ number ≤ records.length ∧ records[(number - 1).toNat]? = some r
  error_iff (e : RequestError) : value = .error e ↔
    (number < 0 ∨ records.length < number) ∧ e = .invalidSelection number records.length

/-- What choosing one of some records comes to. Only the answer about two records or more counts. -/
structure Selects (answer : Except QueryError Int) (records : List ErrorRecord)
    (value : Except RequestError (Option ErrorRecord)) : Prop where
  unasked (h : records.length ≤ 1) : value = .ok records.head?
  failed {e : QueryError} (h : 2 ≤ records.length) (ha : answer = .error e) :
    value = .error (.query e)
  answered {number : Int} (h : 2 ≤ records.length) (ha : answer = .ok number) :
    Chooses records number value

section Numbers
variable {records : List ErrorRecord} {i : Nat}

private theorem chooses_zero : Chooses records 0 (.ok none) where
  none_iff := by simp
  some_iff r := by simp
  error_iff e := by
    simp only [reduceCtorEq, false_iff, not_and]
    omega

/-- The number one more than its place chooses a record. -/
theorem chooses_succ {r : ErrorRecord} (hr : records[i]? = some r) :
    Chooses records (i + 1 : Nat) (.ok (some r)) := by
  obtain ⟨hi, -⟩ := List.getElem?_eq_some_iff.1 hr
  have hn : ((i + 1 : Nat) - 1 : Int).toNat = i := by omega
  constructor
  · simp only [Except.ok.injEq, reduceCtorEq, false_iff]
    omega
  · intro r'
    rw [hn, hr, Except.ok.injEq]
    constructor
    · exact fun h => ⟨by omega, by omega, h⟩
    · exact fun h => h.2.2
  · intro e
    simp only [reduceCtorEq, false_iff, not_and]
    omega

private theorem chooses_outside {number : Int} (hn : number < 0 ∨ (records.length : Int) < number) :
    Chooses records number (.error (.invalidSelection number records.length)) := by
  constructor
  · simp only [reduceCtorEq, false_iff]
    omega
  · intro r
    simp only [reduceCtorEq, false_iff, not_and]
    omega
  · intro e
    rw [Except.error.injEq, eq_comm]
    exact ⟨fun h => ⟨hn, h⟩, fun h => h.2⟩

end Numbers

private theorem Selects.of_chooses {records : List ErrorRecord} {number : Int}
    {value : Except RequestError (Option ErrorRecord)} (h : 2 ≤ records.length)
    (hc : Chooses records number value) : Selects (.ok number) records value where
  unasked _ := by omega
  failed _ ha := nomatch ha
  answered _ ha := Except.ok.inj ha ▸ hc

private theorem Picks.selects {answer : Except QueryError Int} {records : List ErrorRecord}
    {choice : Except RequestError (Option ErrorRecord)} (h : Picks answer records choice) :
    Selects answer records choice := by
  cases h with
  | nothing h =>
    subst h
    exact ⟨fun _ => rfl, by simp, by simp⟩
  | only h =>
    subst h
    exact ⟨fun _ => rfl, by simp, by simp⟩
  | failed h ha =>
    subst ha
    exact ⟨by omega, fun _ ha => Except.error.inj ha ▸ rfl, nofun⟩
  | cancelled h ha => exact ha ▸ .of_chooses h chooses_zero
  | numbered h ha hr => exact ha ▸ .of_chooses h (chooses_succ hr)
  | outside h ha hn => exact ha ▸ .of_chooses h (chooses_outside hn)

private theorem getElem?_candidates (records : List ErrorRecord) (i : Nat) :
    (candidates records)[i]? = records[i]?.map (candidate (i + 1)) :=
  List.getElem?_mapIdx

/-- Without a chooser a choice ends as with one that always cancels, only that nobody is asked. -/
theorem selectWith_none_value (history : Text) (cache : Cache) :
    ((selectWith none history).run cache).value =
      ((selectWith (some fun _ => .ok 0) history).run cache).value := by
  obtain ⟨choice, h⟩ := exists_picks (.ok 0) (History.extract history)
  rw [Picks.selectWith_run none h, Picks.selectWith_run (some fun _ => .ok 0) h]

/-- A chooser is asked once where there are two records or more, and else not at all. It is shown
each record behind its number, and this number as an answer gives the record back. -/
theorem selectWith_selects (choose : Chooser) (history : Text) (cache : Cache) :
    let records := History.extract history
    let shown := candidates records
    let outcome := (selectWith (some choose) history).run cache
    Selects (choose shown) records outcome.value ∧ outcome.cache = cache ∧
      outcome.events = (extractLog history).map .log ++
        (if 2 ≤ records.length then [.call (.choose shown)] else []) ∧
      shown.length = records.length ∧
      ∀ i r, records[i]? = some r → shown[i]? = some (decimal (i + 1) ++ ". ".toList ++
        r.throwpoint ++ ": ".toList ++ join ", ".toList r.messages) := by
  intro records shown outcome
  obtain ⟨choice, h⟩ := exists_picks (choose shown) records
  have ho : outcome = ⟨choice, cache, pickEvents (some choose) history⟩ :=
    Picks.selectWith_run (some choose) h cache
  rw [ho]
  refine ⟨h.selects, rfl, rfl, List.length_mapIdx, fun i r hr => ?_⟩
  rw [getElem?_candidates, hr, Option.map_some, candidate, ErrorRecord.summary]

example :
    let history := "Error detected while processing /a.vim:\nline 3:\nE1: x\nline 4:\nE2: y"
    let told (number : Int) : Text :=
      match ((selectWith (some fun _ => .ok number) history.toList).run .empty).value with
      | .ok none => "none".toList
      | .ok (some r) => r.throwpoint
      | .error e => e.message
    [-1, 0, 1, 2, 3].map told =
      ["selected invalid number: -1 (there are 2 candidates)".toList, "none".toList,
        "/a.vim[3]".toList, "/a.vim[4]".toList,
        "selected invalid number: 3 (there are 2 candidates)".toList] := by
  decide +kernel

end ScriptTrace.Session
