import ScriptTrace.Proofs.Session.Frames
import ScriptTrace.Proofs.Throwpoint.Segments
import ScriptTrace.Session.Requests

/-! The stacktrace of the caller, which is that of the running script without its innermost frame.
The shorter chain is built anew, but every frame depends on the links up to its own at most. -/
namespace ScriptTrace
open Text

namespace Action
variable {α β : Type} (f : α → Action β)

/-- Items can be gone through in two turns, the second with the cache that the first leaves. -/
theorem forEach_append_value (xs ys : List α) (cache : Cache) :
    ((forEach f (xs ++ ys)).run cache).value =
      ((forEach f xs).run cache).value ++
        ((forEach f ys).run ((forEach f xs).run cache).cache).value := by
  induction xs generalizing cache with
  | nil => rfl
  | cons x xs ih =>
    simp only [List.cons_append, forEach, run_bind, run_pure]
    rw [ih]

theorem length_forEach_value (xs : List α) (cache : Cache) :
    ((forEach f xs).run cache).value.length = xs.length := by
  induction xs generalizing cache with
  | nil => rfl
  | cons x xs ih =>
    simp only [forEach, run_bind, run_pure, List.length_cons]
    rw [ih]

end Action

namespace Session
open Throwpoint
variable (s : Session)

private theorem buildCanonical_function_value (chain : Text) (cache : Cache) :
    ((s.buildCanonical (functionMark ++ chain)).run cache).value =
      .ok ⟨((Action.forEach s.functionFrame (splitLinks chain)).run .empty).value⟩ := by
  simp only [buildCanonical, parse?_function]
  rfl

/-- One segment more gives one frame more, behind the others. -/
theorem exists_buildCanonical_append {chain shorter z : Text}
    (h : segments chain = segments shorter ++ [z]) (cache cache' : Cache) :
    ∃ frames last,
      ((s.buildCanonical (functionMark ++ shorter)).run cache).value = .ok ⟨frames⟩ ∧
      ((s.buildCanonical (functionMark ++ chain)).run cache').value = .ok ⟨frames ++ [last]⟩ ∧
      frames.length = (segments shorter).length := by
  have hl : splitLinks chain = splitLinks shorter ++ [Link.parse z] := by
    rw [splitLinks, h, List.map_append]
    rfl
  let outer := (Action.forEach s.functionFrame (splitLinks shorter)).run .empty
  let inner := (s.functionFrame (Link.parse z)).run outer.cache
  refine ⟨outer.value, inner.value, ?_, ?_, ?_⟩
  · exact s.buildCanonical_function_value shorter cache
  · rw [buildCanonical_function_value, hl, Action.forEach_append_value]
    rfl
  · rw [Action.length_forEach_value, splitLinks, List.length_map]

section Queries
variable (cache : Cache)

/-- The chain of the caller is built from the cache as it is, after one call. -/
theorem callstack_run_ok {chain : Text} (h : s.host.evaluate Host.chainExpression = .ok chain) :
    s.callstack.run cache =
      ⟨((s.buildCanonical (callerChain chain)).run cache).value,
        ((s.buildCanonical (callerChain chain)).run cache).cache,
        .call (.evaluate Host.chainExpression) ::
          ((s.buildCanonical (callerChain chain)).run cache).events⟩ := by
  simp only [callstack, evaluate, h]
  rfl

theorem callstack_run_error {e : QueryError}
    (h : s.host.evaluate Host.chainExpression = .error e) :
    s.callstack.run cache =
      ⟨.error (.query e), cache, [.call (.evaluate Host.chainExpression)]⟩ := by
  simp only [callstack, evaluate, h]
  rfl

private theorem callstack_run_of_length_eq_one {chain : Text}
    (h : s.host.evaluate Host.chainExpression = .ok chain) (hl : (segments chain).length = 1) :
    s.callstack.run cache =
      ⟨.error (.invalidThrowpoint []), cache, [.call (.evaluate Host.chainExpression)]⟩ := by
  obtain ⟨only, ho⟩ := List.length_eq_one_iff.1 hl
  have hc : callerChain chain = [] := by
    rw [callerChain, ho]
    rfl
  have hp : parse? [] = none := by decide
  rw [s.callstack_run_ok cache h, hc, s.buildCanonical_refuses hp cache]

end Queries

/-- The caller's frames are those of the running chain but the innermost. Outside of functions, where
there is one segment only, there is no caller. What is cut off from a chain is exactly its last
segment, wherever the dots stand. -/
theorem callstack_drops_innermost (cache cache' : Cache) :
    (∀ t, s.host.evaluate Host.chainExpression = .ok (functionMark ++ t) →
      (2 ≤ (segments t).length → ∃ frames last,
        (s.callstack.run cache).value = .ok ⟨frames⟩ ∧
        ((s.buildCanonical (functionMark ++ t)).run cache').value = .ok ⟨frames ++ [last]⟩ ∧
        frames.length + 1 = (segments t).length) ∧
      ((segments t).length = 1 → s.callstack.run cache =
        ⟨.error (.invalidThrowpoint []), cache, [.call (.evaluate Host.chainExpression)]⟩)) ∧
    (∀ e, s.host.evaluate Host.chainExpression = .error e → s.callstack.run cache =
      ⟨.error (.query e), cache, [.call (.evaluate Host.chainExpression)]⟩) ∧
    ∀ chain, chainMark <:+: chain → ∃ parts z, chain = callerChain chain ++ (chainMark ++ z) ∧
      segments chain = parts ++ [z] ∧ segments (callerChain chain) = parts := by
  have hmark : '.' ∉ functionMark := by decide
  refine ⟨?_, fun e he => s.callstack_run_error cache he, fun chain => exists_eq_callerChain_append⟩
  intro t ht
  constructor
  · intro hl
    obtain ⟨parts, z, -, hs, hc⟩ := exists_eq_callerChain_append (two_le_length_segments_iff.1 hl)
    obtain ⟨frames, last, hv, hv', hn⟩ :=
      s.exists_buildCanonical_append (hs.trans (congrArg (· ++ [z]) hc.symm)) cache cache'
    refine ⟨frames, last, ?_, hv', ?_⟩
    · rw [s.callstack_run_ok cache ht, callerChain_append hmark hl]
      exact hv
    · rw [hn, hc, hs, List.length_append]
      rfl
  · intro hl
    exact s.callstack_run_of_length_eq_one cache ht ((length_segments_append hmark t).trans hl)

private def dotted : Session where
  host :=
    { evaluate _ := .ok "function F[2]...g[3]....h".toList
      describe name := .error (.failed (Host.describeCall name) "no such function".toList)
      read _ := .error .notFound }
  indexer path := ⟨.error (.unreadable path .notFound), []⟩
  chooser := none
  home := none

theorem callstack_drops_innermost_dotted :
    dotted.host.evaluate Host.chainExpression =
      .ok (functionMark ++ "F[2]...g[3]....h".toList) ∧
    segments "F[2]...g[3]....h".toList =
      ["F[2]".toList, ".g[3]".toList, [], "h".toList] ∧
    (dotted.callstack.run .empty).value =
      .ok ⟨[.ofFunction "F".toList 2, .ofFunction ".g".toList 3, .ofFunction [] 0]⟩ := by
  have hs : segments "F[2]...g[3]....h".toList =
      ["F[2]".toList, ".g[3]".toList, [], "h".toList] := by decide +kernel
  have he : dotted.host.evaluate Host.chainExpression =
      .ok (functionMark ++ "F[2]...g[3]....h".toList) := rfl
  refine ⟨he, hs, ?_⟩
  have hl : 2 ≤ (segments "F[2]...g[3]....h".toList).length := by
    rw [hs]
    decide
  obtain ⟨frames, last, hc, hb, -⟩ := ((callstack_drops_innermost dotted .empty .empty).1 _ he).1 hl
  have hall : frames ++ [last] =
      [.ofFunction "F".toList 2, .ofFunction ".g".toList 3, .ofFunction [] 0] ++
        [.ofFunction "h".toList 0] := by
    rw [buildCanonical_function_value, splitLinks, hs] at hb
    injection hb with hb
    injection hb with hb
    exact hb.symm
  rw [hc, (List.append_singleton_inj.1 hall).1]

end Session
end ScriptTrace
