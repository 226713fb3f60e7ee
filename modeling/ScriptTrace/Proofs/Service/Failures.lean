import ScriptTrace.Proofs.Trace.Wire
import ScriptTrace.Service.Channel

/-! How an answer tells whether its request failed.
The decoder of failures reads arrays as well as objects, and no result of a request is taken for a
failure in either form. -/
namespace ScriptTrace

/-- Values of results: an object with frames alone, an array of records, or null. -/
inductive Json.IsResult : Json → Prop where
  | trace (frames : List Json) : IsResult (.object [("stacks".toList, .array frames)])
  | records (rs : List History.ErrorRecord) : IsResult (.array (rs.map History.ErrorRecord.toJson))
  | nothing : IsResult .null

namespace ErrorResponse
open Json

/-- The answer of a failure is read back as it was written. -/
theorem ofJson_toJson (r : ErrorResponse) : ofJson r.toJson = .ok r := rfl

/-- An array that begins with an object tells of no failure, and neither does the empty one. -/
theorem ofJson_array_ne {items : List Json} (h : ∀ v ∈ items, ∃ members, v = .object members)
    (r : ErrorResponse) : ofJson (.array items) ≠ .ok r := by
  cases items with
  | nil =>
    intro hr
    cases hr
  | cons v rest =>
    obtain ⟨members, rfl⟩ := h v List.mem_cons_self
    intro hr
    cases hr

private theorem ofJson_ne_of_isResult {v : Json} (h : v.IsResult) (r : ErrorResponse) :
    ofJson v ≠ .ok r := by
  cases h with
  | trace frames =>
    intro hr
    cases hr
  | records rs =>
    apply ofJson_array_ne
    intro v hv
    obtain ⟨record, -, rfl⟩ := List.mem_map.1 hv
    exact ⟨_, record.toJson_eq⟩
  | nothing =>
    intro hr
    cases hr

end ErrorResponse

namespace Session
variable (s : Session) (cache : Cache)

/-- A request fails when its body is none, or when carrying it out fails. -/
inductive Fails (body : Json) : RequestError → Prop where
  | undecoded {e : DecodeError} (h : Request.ofJson body = .error e) :
    Fails body (.invalidRequest e)
  | dispatched {request : Request} {e : RequestError} (h : Request.ofJson body = .ok request)
    (hd : ((s.dispatch request).run cache).value = .error e) : Fails body e

private theorem isResult_of_map {α : Type} {a : Action (Except RequestError α)} {f : α → Json}
    (hf : ∀ x, (f x).IsResult) {v : Json}
    (h : ((do return (← a).map f : Action (Except RequestError Json)).run cache).value = .ok v) :
    v.IsResult := by
  have hv : (a.run cache).value.map f = .ok v := h
  cases hx : (a.run cache).value with
  | error e =>
    rw [hx] at hv
    cases hv
  | ok x =>
    rw [hx] at hv
    cases hv
    exact hf x

variable {s cache}

/-- What a request gives has one of the three forms of a result. -/
theorem isResult_of_dispatch {request : Request} {v : Json}
    (h : ((s.dispatch request).run cache).value = .ok v) : v.IsResult := by
  cases request with
  | callstack => exact isResult_of_map cache (fun trace => .trace _) h
  | build throwpoint => exact isResult_of_map cache (fun trace => .trace _) h
  | errors history => exact isResult_of_map cache .records h
  | fromHistory =>
    refine isResult_of_map cache (fun picked => ?_) h
    cases picked with
    | none => exact .nothing
    | some trace => exact .trace _

private theorem Fails.perform_eq {body : Json} {e : RequestError} (h : s.Fails cache body e) :
    ((s.perform body).run cache).value = .error e := by
  cases h with
  | undecoded h => simp [perform, h]
  | dispatched h hd =>
    simp only [perform, h]
    exact hd

/-- A request that fails is answered with the message of its failure. -/
theorem Fails.handle_eq {body : Json} {e : RequestError} (h : s.Fails cache body e) :
    ((s.handle body).run cache).value = (ErrorResponse.mk e.message).toJson := by
  rw [handle, Action.run_bind, h.perform_eq]
  rfl

private theorem isResult_of_not_fails {body : Json} (h : ¬ ∃ e, s.Fails cache body e) :
    ((s.handle body).run cache).value.IsResult := by
  cases hr : Request.ofJson body with
  | error e => exact absurd ⟨_, .undecoded hr⟩ h
  | ok request =>
    cases hd : ((s.dispatch request).run cache).value with
    | error e => exact absurd ⟨e, .dispatched hr hd⟩ h
    | ok v =>
      have hp : ((s.perform body).run cache).value = .ok v := by
        simp only [perform, hr]
        exact hd
      rw [handle, Action.run_bind, hp]
      exact isResult_of_dispatch hd

/-- An answer is read as a failure exactly when the request failed. Then it tells the message of the
failure and nothing else, and otherwise it is a result. -/
theorem handle_failure_iff (s : Session) (cache : Cache) (body : Json) :
    ((∃ r, ErrorResponse.ofJson ((s.handle body).run cache).value = .ok r) ↔
      ∃ e, s.Fails cache body e) ∧
    (∀ e, s.Fails cache body e →
      ((s.handle body).run cache).value = .object [("error".toList, .string e.message)]) ∧
    ((¬ ∃ e, s.Fails cache body e) → ((s.handle body).run cache).value.IsResult) := by
  refine ⟨⟨?_, ?_⟩, fun e he => he.handle_eq, isResult_of_not_fails⟩
  · rintro ⟨r, hr⟩
    by_cases hf : ∃ e, s.Fails cache body e
    · exact hf
    · exact absurd hr (ErrorResponse.ofJson_ne_of_isResult (isResult_of_not_fails hf) r)
  · rintro ⟨e, he⟩
    rw [he.handle_eq]
    exact ⟨_, ErrorResponse.ofJson_toJson _⟩

end Session
end ScriptTrace
