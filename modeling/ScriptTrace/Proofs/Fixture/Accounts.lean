import ScriptTrace.Fixture.Suite
import ScriptTrace.Proofs.Fixture.Differences
import ScriptTrace.Proofs.Listing
import ScriptTrace.Proofs.Session.Refusals

/-! The summary of a suite, which accounts for each fixture once.
What comes of a fixture depends on its own file alone, so the fixtures may be judged in any order. -/
namespace ScriptTrace.Fixture
open Text History

/-- Nothing can be checked at this path: there is no file, or no text, or no front matter. -/
inductive Skips (read : FileReader) (path : Text) : Prop where
  | unreadable {e : FileError} (hr : read path = .error e)
  | notText {bytes : Utf8.Bytes} (hr : read path = .ok bytes) (hd : Utf8.decode? bytes = none)
  | bare {bytes : Utf8.Bytes} {source : Text} (hr : read path = .ok bytes)
    (hd : Utf8.decode? bytes = some source) (hm : Metadata.parse? source = none)

/-- The file at this path has front matter, and the check of its history comes to this. -/
def Checks (read : FileReader) (path : Text) (verdict : Verdict) : Prop :=
  ∃ bytes source expectation, read path = .ok bytes ∧ Utf8.decode? bytes = some source ∧
    Metadata.parse? source = some expectation ∧ check read expectation (body source) = verdict

section Check
variable (read other : FileReader)

/-- Files that cannot be read make frames poorer but keep nothing from being built. -/
theorem buildOffline_eq_error_iff {throwpoint : Text} {e : RequestError} :
    Session.buildOffline read throwpoint = .error e ↔
      Throwpoint.parse? (Throwpoint.normalize throwpoint) = none ∧
        e = .invalidThrowpoint (Throwpoint.normalize throwpoint) := by
  rw [Session.buildOffline, Session.build]
  constructor
  · intro h
    have hp := Session.parse?_of_buildCanonical_error h
    have hv := (Session.offline read none).buildCanonical_none hp .empty
    exact ⟨hp, Except.error.inj (h.symm.trans hv)⟩
  · rintro ⟨hp, rfl⟩
    exact (Session.offline read none).buildCanonical_none hp .empty

private theorem firstUnbuildable?_congr (records : List ErrorRecord) :
    firstUnbuildable? read records = firstUnbuildable? other records := by
  induction records with
  | nil => rfl
  | cons r rest ih =>
    rw [firstUnbuildable?, firstUnbuildable?]
    cases h : Session.buildOffline read r.throwpoint with
    | error e =>
      rw [(buildOffline_eq_error_iff other).2 ((buildOffline_eq_error_iff read).1 h)]
    | ok trace =>
      cases h' : Session.buildOffline other r.throwpoint with
      | error e =>
        rw [(buildOffline_eq_error_iff read).2 ((buildOffline_eq_error_iff other).1 h')] at h
        cases h
      | ok trace' => exact ih

private theorem check_congr (expectation : Metadata) (history : Text) :
    check read expectation history = check other expectation history := by
  simp only [check, difference?, firstUnbuildable?_congr read other]

variable {read other} {path : Text}

private theorem judge_congr (h : other path = read path) : judge other path = judge read path := by
  simp only [judge, FileReader.text, h, check_congr other read]

end Check

def Verdict.isSkipped : Verdict → Bool
  | .skipped _ => true
  | _ => false

section Judgement
variable {read : FileReader} {path : Text} {verdict : Verdict}

private theorem isSkipped_check (expectation : Metadata) (history : Text) :
    (check read expectation history).isSkipped = false := by
  rw [check_eq]
  cases difference? read expectation history <;> rfl

private theorem judge_of_skips (h : Skips read path) : (judge read path).isSkipped = true := by
  cases h with
  | unreadable hr =>
    simp only [judge, FileReader.text, hr]
    rfl
  | notText hr hd =>
    simp only [judge, FileReader.text, hr, hd]
    rfl
  | bare hr hd hm =>
    simp only [judge, FileReader.text, hr, hd, hm]
    rfl

private theorem judge_of_checks (h : Checks read path verdict) : judge read path = verdict := by
  obtain ⟨bytes, source, expectation, hr, hd, hm, rfl⟩ := h
  simp only [judge, FileReader.text, hr, hd, hm]

private theorem skips_or_checks (read : FileReader) (path : Text) :
    Skips read path ∨ ∃ verdict, Checks read path verdict := by
  cases hr : read path with
  | error e => exact .inl (.unreadable hr)
  | ok bytes =>
    cases hd : Utf8.decode? bytes with
    | none => exact .inl (.notText hr hd)
    | some source =>
      cases hm : Metadata.parse? source with
      | none => exact .inl (.bare hr hd hm)
      | some expectation => exact .inr ⟨_, bytes, source, expectation, hr, hd, hm, rfl⟩

private theorem isSkipped_of_checks (h : Checks read path verdict) : verdict.isSkipped = false := by
  obtain ⟨_, _, _, -, -, -, rfl⟩ := h
  exact isSkipped_check _ _

/-- A file is skipped just when its verdict says so. -/
theorem skips_iff : Skips read path ↔ (judge read path).isSkipped = true := by
  refine ⟨judge_of_skips, fun h => (skips_or_checks read path).resolve_right ?_⟩
  rintro ⟨verdict, hc⟩
  rw [judge_of_checks hc, isSkipped_of_checks hc] at h
  cases h

/-- The verdicts that are no skips are the ones of a check. -/
theorem checks_iff :
    Checks read path verdict ↔ judge read path = verdict ∧ verdict.isSkipped = false := by
  refine ⟨fun h => ⟨judge_of_checks h, isSkipped_of_checks h⟩, ?_⟩
  rintro ⟨rfl, hs⟩
  obtain ⟨verdict, hc⟩ := (skips_or_checks read path).resolve_left fun h => by
    rw [judge_of_skips h] at hs
    cases hs
  rwa [judge_of_checks hc]

instance : Decidable (Skips read path) := decidable_of_iff _ skips_iff.symm

instance : Decidable (Checks read path verdict) := decidable_of_iff _ checks_iff.symm

end Judgement

def failure? (read : FileReader) (path : Text) : Option (Text × Text) :=
  match judge read path with
  | .failed reason => some (path, reason)
  | _ => none

/-- The summary has each of these fixtures in one of its counts, and the failures in their order. -/
structure Accounts (read : FileReader) (paths : List Text) (s : Summary) : Prop where
  total : s.passed + s.failed + s.skipped = paths.length
  failed : s.failed = s.failures.length
  passed : s.passed = paths.countP fun path => judge read path = .passed
  skipped : s.skipped = paths.countP fun path => (judge read path).isSkipped
  failures : s.failures = paths.filterMap (failure? read)

section Adding
variable (read : FileReader) (s : Summary) (path : Text) (verdict : Verdict)

private theorem total_add :
    (s.add path verdict).passed + (s.add path verdict).failed + (s.add path verdict).skipped =
      s.passed + s.failed + s.skipped + 1 := by
  cases verdict <;> simp only [Summary.add] <;> omega

private theorem passed_add :
    (s.add path verdict).passed = s.passed + if verdict = .passed then 1 else 0 := by
  cases verdict <;> simp [Summary.add]

private theorem skipped_add :
    (s.add path verdict).skipped = s.skipped + if verdict.isSkipped then 1 else 0 := by
  cases verdict <;> rfl

private theorem failed_add :
    (s.add path (judge read path)).failed = s.failed + (failure? read path).toList.length ∧
      (s.add path (judge read path)).failures = s.failures ++ (failure? read path).toList := by
  rw [failure?]
  cases judge read path <;> simp [Summary.add]

end Adding

private theorem accounts_empty (read : FileReader) : Accounts read [] .empty :=
  ⟨rfl, rfl, rfl, rfl, rfl⟩

private theorem Accounts.add {read : FileReader} {paths : List Text} {s : Summary}
    (h : Accounts read paths s) (path : Text) :
    Accounts read (paths ++ [path]) (s.add path (judge read path)) := by
  obtain ⟨hf, hl⟩ := failed_add read s path
  constructor
  · rw [total_add, h.total, List.length_append, List.length_singleton]
  · rw [hf, hl, h.failed, List.length_append]
  · simp [passed_add, h.passed, List.countP_append, List.countP_singleton]
  · simp [skipped_add, h.skipped, List.countP_append, List.countP_singleton]
  · rw [hl, h.failures, List.filterMap_append]
    cases hv : failure? read path <;> simp [hv]

/-- The summary of a run accounts for every file, by induction on the files. -/
theorem accounts_runSuite (read : FileReader) (paths : List Text) :
    Accounts read paths (runSuite read paths) := by
  induction paths using List.reverseRecOn with
  | nil => exact accounts_empty read
  | append_singleton paths path ih =>
    rw [runSuite, List.foldl_concat]
    exact ih.add path

theorem failure?_eq_some_iff {read : FileReader} {path : Text} {failure : Text × Text} :
    failure? read path = some failure ↔
      path = failure.1 ∧ Checks read path (.failed failure.2) := by
  obtain ⟨p, reason⟩ := failure
  rw [checks_iff, failure?]
  cases judge read path <;> simp [Verdict.isSkipped]

/-- The failures stand in the order of the paths. -/
theorem Accounts.listing {read : FileReader} {paths : List Text} {s : Summary}
    (h : Accounts read paths s) :
    Listing (fun i failure => paths[i]? = some failure.1 ∧ Checks read failure.1 (.failed failure.2))
      s.failures := by
  have hl := Listing.filterMap (failure? read) paths
  rw [← h.failures] at hl
  simpa [failure?_eq_some_iff] using hl

/-- The order of the files changes nothing but the order of the failures. -/
theorem Accounts.perm {read : FileReader} {paths others : List Text} {s t : Summary}
    (h : Accounts read paths s) (h' : Accounts read others t) (hp : others.Perm paths) :
    t.passed = s.passed ∧ t.failed = s.failed ∧ t.skipped = s.skipped ∧
      t.failures.Perm s.failures := by
  have hf : t.failures.Perm s.failures := by
    rw [h.failures, h'.failures]
    exact hp.filterMap _
  refine ⟨?_, ?_, ?_, hf⟩
  · rw [h.passed, h'.passed, hp.countP_eq]
  · rw [h.failed, h'.failed, hf.length_eq]
  · rw [h.skipped, h'.skipped, hp.countP_eq]

/-- Each fixture is counted once, as what its own file makes it: the failures are those whose check
fails, in the order of the paths, and the skipped ones those that cannot be checked. In another
order of the fixtures nothing but the order of the failures is another one. -/
theorem runSuite_accounts (read : FileReader) (paths : List Text) :
    let s := runSuite read paths
    s.passed + s.failed + s.skipped = paths.length ∧ s.failed = s.failures.length ∧
    Listing (fun i failure => paths[i]? = some failure.1 ∧ Checks read failure.1 (.failed failure.2))
      s.failures ∧
    s.passed = (paths.countP fun path => Checks read path .passed) ∧
    s.skipped = (paths.countP fun path => Skips read path) ∧
    (∀ (other : FileReader) (path : Text), other path = read path →
      judge other path = judge read path) ∧
    ∀ others : List Text, others.Perm paths →
      (runSuite read others).passed = s.passed ∧ (runSuite read others).failed = s.failed ∧
        (runSuite read others).skipped = s.skipped ∧
        (runSuite read others).failures.Perm s.failures := by
  intro s
  have hs : Accounts read paths s := accounts_runSuite read paths
  have hp (path : Text) : Checks read path .passed ↔ judge read path = .passed :=
    checks_iff.trans (and_iff_left rfl)
  refine ⟨hs.total, hs.failed, hs.listing, ?_, ?_, fun other path h => judge_congr h, ?_⟩
  · simp only [hs.passed, hp]
  · simp only [hs.skipped, skips_iff, Bool.decide_eq_true]
  · exact fun others hperm => hs.perm (accounts_runSuite read others) hperm

end ScriptTrace.Fixture
