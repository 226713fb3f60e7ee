import ScriptTrace.Proofs.History.Throwpoints
import ScriptTrace.Proofs.Session.Frames
import ScriptTrace.Proofs.Throwpoint.Positions

/-! Stacktraces of the throwpoints that an extraction finds.
A throwpoint with a header or a live mark inside its place loses its stacktrace to normalizing. -/
namespace ScriptTrace.Session
open Text Throwpoint History

/-- The throwpoint of every record can be built as it is. -/
theorem buildCanonical_of_mem_extract {history : Text} {r : ErrorRecord} (h : r ∈ extract history)
    (s : Session) (cache : Cache) :
    ∃ trace, ((s.buildCanonical r.throwpoint).run cache).value = .ok trace := by
  obtain ⟨place, digits, he, hd, -⟩ := throwpoint_of_mem_extract h
  have hp : parse? (bracketed place digits) ≠ none := parse?_bracketed_ne_none hd
  obtain ⟨t, ht⟩ := Option.ne_none_iff_exists'.1 hp
  obtain ⟨trace, hv, -⟩ := s.buildCanonical_shows (he ▸ ht) cache
  exact ⟨trace, hv⟩

/-- A throwpoint with the stacktrace of its normal form has the names of it. -/
theorem names_eq_of_build {s : Session} {throwpoint : Text} {trace : Stacktrace}
    {cache cache' : Cache} (hb : ((s.build throwpoint).run cache).value = .ok trace)
    (hc : ((s.buildCanonical throwpoint).run cache').value = .ok trace) :
    (parse? (Throwpoint.normalize throwpoint)).map names = (parse? throwpoint).map names := by
  obtain ⟨t, ht, hs⟩ := s.exists_shows_of_buildCanonical hb
  obtain ⟨t', ht', hs'⟩ := s.exists_shows_of_buildCanonical hc
  rw [ht, ht', Option.map_some, Option.map_some, hs.names_eq hs']

/-- The throwpoint of a record can be built with and without normalizing to the same stacktrace
exactly when it has neither a header at its start nor the mark of a live throwpoint anywhere. -/
theorem build_of_mem_extract_iff {history : Text} {r : ErrorRecord} (h : r ∈ extract history)
    (s : Session) (cache cache' : Cache) :
    (∃ trace, ((s.build r.throwpoint).run cache).value = .ok trace ∧
      ((s.buildCanonical r.throwpoint).run cache').value = .ok trace) ↔
    ¬ headerMark <+: r.throwpoint ∧ ¬ liveMark <:+: r.throwpoint := by
  obtain ⟨place, digits, he, hd, hn⟩ := throwpoint_of_mem_extract h
  rw [he, ← normalize_bracketed_eq_self_iff hd hn, ← he]
  constructor
  · rintro ⟨trace, hb, hc⟩
    have hnames := names_eq_of_build hb hc
    rw [he] at hnames ⊢
    exact normalize_eq_self_of_names hd hn hnames
  · intro hself
    obtain ⟨trace, hv⟩ := buildCanonical_of_mem_extract h s cache'
    refine ⟨trace, ?_, hv⟩
    rw [build, hself, s.buildCanonical_value_eq _ cache cache']
    exact hv

theorem build_of_mem_extract_chain :
    (⟨"function A[2]..B[3]".toList, ["E121: x".toList]⟩ : ErrorRecord) ∈
      extract "Error detected while processing function A[2]..B:\nline    3:\nE121: x".toList ∧
    ∃ trace,
      (((offline (fun _ => .error .notFound) none).build "function A[2]..B[3]".toList).run
        .empty).value = .ok trace ∧
      (((offline (fun _ => .error .notFound) none).buildCanonical "function A[2]..B[3]".toList).run
        .empty).value = .ok trace := by
  have hr : (⟨"function A[2]..B[3]".toList, ["E121: x".toList]⟩ : ErrorRecord) ∈
      extract "Error detected while processing function A[2]..B:\nline    3:\nE121: x".toList := by
    decide +kernel
  exact ⟨hr, (build_of_mem_extract_iff hr _ _ _).2 (by decide +kernel)⟩

theorem build_of_mem_extract_fails :
    extract "Error detected while processing /tmp/a, line 3.vim:\nline    5:\nE121: x".toList =
      [⟨"/tmp/a, line 3.vim[5]".toList, ["E121: x".toList]⟩] ∧
    (((offline (fun _ => .error .notFound) none).buildCanonical "/tmp/a, line 3.vim[5]".toList).run
      .empty).value = .ok ⟨[Frame.ofFile "/tmp/a, line 3.vim".toList 5]⟩ ∧
    (((offline (fun _ => .error .notFound) none).build "/tmp/a, line 3.vim[5]".toList).run
      .empty).value = .error (.invalidThrowpoint "/tmp/a[3.vim[5]]".toList) := by
  have hn : Throwpoint.normalize "/tmp/a, line 3.vim[5]".toList = "/tmp/a[3.vim[5]]".toList := by
    rw [Throwpoint.normalize, stripHeaders_eq_self (by decide)]
    decide +kernel
  refine ⟨by decide +kernel, ?_, ?_⟩
  · have hp : parse? "/tmp/a, line 3.vim[5]".toList = some (.file ⟨"/tmp/a, line 3.vim".toList, 5⟩) := by
      decide +kernel
    simp only [buildCanonical, hp]
    rfl
  · rw [build, hn]
    exact buildCanonical_none _ (by decide +kernel) _

end ScriptTrace.Session
