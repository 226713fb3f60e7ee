import ScriptTrace.Proofs.Session.Frames
import ScriptTrace.Proofs.Throwpoint.Canonical

/-! Which throwpoints a session refuses, and what it has done by then.
The normal form alone decides. Whatever the editor and the indexer fail to tell afterwards, every
link of an accepted throwpoint has its frame. -/
namespace ScriptTrace
open Text

namespace Throwpoint

/-- A text is refused if it neither begins as a chain nor ends as a position in a file. -/
theorem parse?_eq_none_iff {s : Text} :
    parse? s = none ↔ ¬ functionMark <+: s ∧
      ¬ ∃ place digits, isDigits digits = true ∧ s = bracketed place digits := by
  rw [← isFilePosition_iff, ← isPrefixOf?_eq_none_iff, parse?]
  cases functionMark.isPrefixOf? s with
  | some chain => simp
  | none => simp

theorem links_ne_nil {s : Text} {t : Throwpoint} (h : parse? s = some t) : t.links ≠ [] :=
  (canonical_of_parse? h).links_ne_nil

theorem Shows.length_eq {trace : Stacktrace} {t : Throwpoint} (h : t.Shows trace) :
    trace.frames.length = t.links.length := by
  cases t with
  | function links => exact (List.Forall₂.length_eq h).symm
  | file link => exact (List.Forall₂.length_eq h).symm

end Throwpoint

namespace Session
open Throwpoint

/-- A stacktrace has a frame for each link of its throwpoint, and so it has one at all. -/
theorem frames_of_buildCanonical {s : Session} {chain : Text} {trace : Stacktrace} {cache : Cache}
    (h : ((s.buildCanonical chain).run cache).value = .ok trace) :
    ∃ t, parse? chain = some t ∧ trace.frames.length = t.links.length ∧ trace.frames ≠ [] := by
  obtain ⟨t, ht, hs⟩ := s.exists_shows_of_buildCanonical h
  have hl := hs.length_eq
  refine ⟨t, ht, hl, ?_⟩
  intro hn
  rw [hn] at hl
  exact links_ne_nil ht (List.eq_nil_of_length_eq_zero hl.symm)

theorem parse?_of_buildCanonical_error {s : Session} {chain : Text} {e : RequestError}
    {cache : Cache} (h : ((s.buildCanonical chain).run cache).value = .error e) :
    parse? chain = none := by
  cases hp : parse? chain with
  | none => rfl
  | some t =>
    obtain ⟨trace, hv, -⟩ := s.buildCanonical_shows hp cache
    rw [hv] at h
    cases h

/-- A throwpoint is refused exactly when its normal form is neither a chain of functions nor a
position in a file. Then nothing has been asked and the cache is what it was. Otherwise there is one
frame for each link, and there is a link. -/
theorem build_refuses_iff (s : Session) (throwpoint : Text) (cache : Cache) :
    ((∃ e, ((s.build throwpoint).run cache).value = .error e) ↔
      ¬ functionMark <+: Throwpoint.normalize throwpoint ∧
        ¬ ∃ place digits, isDigits digits = true ∧
          Throwpoint.normalize throwpoint = bracketed place digits) ∧
    (∀ e, ((s.build throwpoint).run cache).value = .error e →
      (s.build throwpoint).run cache =
        ⟨.error (.invalidThrowpoint (Throwpoint.normalize throwpoint)), cache, []⟩) ∧
    ∀ trace, ((s.build throwpoint).run cache).value = .ok trace →
      ∃ t, parse? (Throwpoint.normalize throwpoint) = some t ∧
        trace.frames.length = t.links.length ∧ trace.frames ≠ [] := by
  rw [← parse?_eq_none_iff, build]
  refine ⟨⟨?_, ?_⟩, ?_, fun trace hv => frames_of_buildCanonical hv⟩
  · rintro ⟨e, he⟩
    exact parse?_of_buildCanonical_error he
  · intro hp
    exact ⟨_, s.buildCanonical_none hp cache⟩
  · intro e he
    exact s.buildCanonical_refuses (parse?_of_buildCanonical_error he) cache

end Session
end ScriptTrace
