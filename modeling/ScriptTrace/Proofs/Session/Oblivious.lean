import ScriptTrace.Session.Builder

/-! Actions to which the cache they start from makes no difference.
Building a stacktrace is one of them, since a chain empties the cache and a position never looks
at it. -/
namespace ScriptTrace.Action
variable {α β : Type}

/-- From every cache the action gives the same value and lets the same events be seen. -/
def Oblivious (a : Action α) : Prop :=
  ∀ cache cache', (a.run cache).value = (a.run cache').value ∧
    (a.run cache).events = (a.run cache').events

theorem oblivious_pure (value : α) : Oblivious (pure value) :=
  fun _ _ => ⟨rfl, rfl⟩

theorem oblivious_ask (c : Call) (answer : α) : Oblivious (ask c answer) :=
  fun _ _ => ⟨rfl, rfl⟩

private theorem oblivious_read (path : Text) (answer : α) : Oblivious (read path answer) :=
  fun _ _ => ⟨rfl, rfl⟩

theorem oblivious_notes (records : List Log.Record) : Oblivious (notes records) :=
  fun _ _ => ⟨rfl, rfl⟩

theorem oblivious_note (level : Log.Level) (component : Log.Component) (text : Text) :
    Oblivious (note level component text) :=
  fun _ _ => ⟨rfl, rfl⟩

/-- Actions that do not depend on the cache can follow one another. -/
theorem Oblivious.bind {a : Action α} {f : α → Action β} (ha : Oblivious a)
    (hf : ∀ x, Oblivious (f x)) : Oblivious (a >>= f) := by
  intro cache cache'
  obtain ⟨hv, he⟩ := ha cache cache'
  obtain ⟨hv', he'⟩ := hf (a.run cache').value (a.run cache).cache (a.run cache').cache
  simp only [run_bind, hv, he, hv', he', and_self]

theorem Oblivious.map {a : Action α} (ha : Oblivious a) (f : α → β) :
    Oblivious (do return f (← a)) :=
  ha.bind fun x => oblivious_pure (f x)

private theorem oblivious_reset_bind (f : Unit → Action β) : Oblivious (reset >>= f) :=
  fun _ _ => ⟨rfl, rfl⟩

/-- A run whose steps give the same value from every cache gives the values of its steps alone. -/
theorem forEach_value {f : α → Action β} {xs : List α}
    (h : ∀ x ∈ xs, ∀ cache cache', ((f x).run cache).value = ((f x).run cache').value)
    (cache start : Cache) :
    ((forEach f xs).run cache).value = xs.map fun x => ((f x).run start).value := by
  induction xs generalizing cache with
  | nil => rfl
  | cons x xs ih =>
    have hx := h x List.mem_cons_self cache start
    have hxs := ih (fun y hy => h y (List.mem_cons_of_mem x hy)) ((f x).run cache).cache
    rw [forEach, List.map_cons, run_bind, run_bind, run_pure, hx, hxs]

end ScriptTrace.Action
namespace ScriptTrace.Session
open ScriptTrace.Action

private theorem oblivious_fileFrame (s : Session) (link : Link) : Oblivious (s.fileFrame link) := by
  refine (oblivious_read _ _).bind fun answer => ?_
  cases answer with
  | error e => exact (oblivious_note _ _ _).bind fun _ => oblivious_pure _
  | ok bytes => exact oblivious_pure _

/-- A chain clears the cache before it is built, and a position in a file does not use it. -/
theorem oblivious_buildCanonical (s : Session) (chain : Text) :
    Oblivious (s.buildCanonical chain) := by
  unfold buildCanonical
  split
  · exact oblivious_pure _
  · exact oblivious_reset_bind _
  · next link _ => exact (s.oblivious_fileFrame link).map _

theorem oblivious_build (s : Session) (throwpoint : Text) : Oblivious (s.build throwpoint) :=
  s.oblivious_buildCanonical _

end ScriptTrace.Session
