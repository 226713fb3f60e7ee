import Mathlib.Data.List.Forall2
import ScriptTrace.Session.Action

/-! What is known beforehand of the value of an action, as long as the cache keeps an invariant.
What is known of the parts of an action gives what is known of the whole. -/
namespace ScriptTrace.Action
variable {α β : Type} {I : Cache → Prop} {P : α → Prop} {Q : β → Prop}

/-- From every cache with the invariant, the action gives such a value and keeps the invariant. -/
def Ensures (I : Cache → Prop) (a : Action α) (P : α → Prop) : Prop :=
  ∀ cache, I cache → P (a.run cache).value ∧ I (a.run cache).cache

theorem ensures_pure {value : α} (h : P value) : Ensures I (pure value) P :=
  fun _ hI => ⟨h, hI⟩

theorem Ensures.imp {a : Action α} {P' : α → Prop} (ha : Ensures I a P) (h : ∀ x, P x → P' x) :
    Ensures I a P' :=
  fun cache hI => ⟨h _ (ha cache hI).1, (ha cache hI).2⟩

/-- What the first action gives and the cache that it leaves are all that the second relies on. -/
theorem Ensures.bind {a : Action α} {f : α → Action β} (ha : Ensures I a P)
    (hf : ∀ x, P x → Ensures I (f x) Q) : Ensures I (a >>= f) Q := by
  intro cache h
  obtain ⟨hx, hc⟩ := ha cache h
  rw [run_bind]
  exact hf _ hx _ hc

theorem Ensures.map {a : Action α} {f : α → β} (ha : Ensures I a P) (hf : ∀ x, P x → Q (f x)) :
    Ensures I (do return f (← a)) Q :=
  ha.bind fun x hx => ensures_pure (hf x hx)

theorem ensures_note (level : Log.Level) (component : Log.Component) (text : Text) :
    Ensures I (note level component text) fun _ => True :=
  fun _ hI => ⟨trivial, hI⟩

theorem ensures_ask (c : Call) (answer : α) : Ensures I (ask c answer) (· = answer) :=
  fun _ hI => ⟨rfl, hI⟩

theorem ensures_read (path : Text) (answer : α) : Ensures I (read path answer) (· = answer) :=
  fun _ hI => ⟨rfl, hI⟩

/-- An action that keeps the invariant on each item keeps it on all of them. -/
theorem Ensures.forEach {f : α → Action β} {R : α → β → Prop} {xs : List α}
    (h : ∀ x ∈ xs, Ensures I (f x) (R x)) : Ensures I (forEach f xs) (List.Forall₂ R xs) := by
  induction xs with
  | nil => exact ensures_pure .nil
  | cons x xs ih =>
    have hx := h x List.mem_cons_self
    have hxs := ih fun x' hx' => h x' (List.mem_cons_of_mem x hx')
    exact hx.bind fun y hy => hxs.bind fun ys hys => ensures_pure (.cons hy hys)

theorem Ensures.forEach_eq {f : α → Action β} {g : α → β} {xs : List α}
    (h : ∀ x ∈ xs, Ensures I (f x) (· = g x)) : Ensures I (Action.forEach f xs) (· = xs.map g) := by
  refine (Ensures.forEach h).imp fun ys hys => ?_
  have hmap : List.Forall₂ (· = ·) ys (xs.map g) := List.forall₂_map_right_iff.2 hys.flip
  rwa [List.forall₂_eq_eq_eq] at hmap

end ScriptTrace.Action
