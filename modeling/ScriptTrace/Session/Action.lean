import ScriptTrace.Session.Cache

/-! Actions on a session, and what can be seen of them.
An action takes the cache and gives a value, the cache after it, and the events on the way. -/
namespace ScriptTrace

/-- A call of one of the session's collaborators. -/
inductive Call where
  | evaluate (expression : Text)
  | describe (name : Text)
  | index (path : Text)
  | choose (candidates : List Text)
  deriving DecidableEq, Repr

/-- What can be seen of an action besides its value. -/
inductive Event where
  | call (c : Call)
  /-- The editor reads a source file. -/
  | read (path : Text)
  | log (r : Log.Record)
  deriving DecidableEq, Repr

namespace Event

def calls (events : List Event) : List Call :=
  events.filterMap fun
    | call c => some c
    | read _ => none
    | log _ => none

def records (events : List Event) : List Log.Record :=
  events.filterMap fun
    | call _ => none
    | read _ => none
    | log r => some r

end Event

/-- What comes of an action. -/
structure Outcome (α : Type) where
  value : α
  cache : Cache
  events : List Event

/-- A computation that may use the cache. -/
def Action (α : Type) := Cache → Outcome α

namespace Action
variable {α β : Type}

def run (a : Action α) (cache : Cache) : Outcome α := a cache

instance : Monad Action where
  pure value := fun cache => ⟨value, cache, []⟩
  bind a f := fun cache =>
    let first := a cache
    let second := f first.value first.cache
    ⟨second.value, second.cache, first.events ++ second.events⟩

@[simp] theorem run_pure (value : α) (cache : Cache) :
    (pure value : Action α).run cache = ⟨value, cache, []⟩ := rfl

theorem run_bind (a : Action α) (f : α → Action β) (cache : Cache) :
    (a >>= f).run cache =
      ⟨((f (a.run cache).value).run (a.run cache).cache).value,
        ((f (a.run cache).value).run (a.run cache).cache).cache,
        (a.run cache).events ++ ((f (a.run cache).value).run (a.run cache).cache).events⟩ := rfl

instance : LawfulMonad Action :=
  LawfulMonad.mk' Action
    (fun a => by
      funext cache
      change Outcome.mk (a cache).value (a cache).cache ((a cache).events ++ []) = a cache
      rw [List.append_nil])
    (fun _ _ => rfl)
    (fun a f g => by
      funext cache
      exact congrArg (Outcome.mk _ _) (List.append_assoc _ _ _))

def see (e : Event) : Action Unit := fun cache => ⟨(), cache, [e]⟩

/-- Makes the call of a collaborator seen, and gives what the collaborator answers. -/
def ask (c : Call) (answer : α) : Action α := fun cache => ⟨answer, cache, [.call c]⟩

def read (path : Text) (answer : α) : Action α := fun cache => ⟨answer, cache, [.read path]⟩

def note (level : Log.Level) (component : Log.Component) (text : Text) : Action Unit :=
  see (.log ⟨level, component, text⟩)

def notes (records : List Log.Record) : Action Unit := fun cache =>
  ⟨(), cache, records.map .log⟩

def reset : Action Unit := fun _ => ⟨(), .empty, []⟩

/-- The table of a file, from the cache or else from the indexer. -/
def lookup (indexer : Text → Indexing) (path : Text) : Action Source.Table := fun cache =>
  match cache.find? path with
  | some table =>
    ⟨table, cache,
      [.log ⟨.trace, .cache, "function index cache hit: ".toList ++ path⟩]⟩
  | none =>
    let made := indexer path
    let failure := match made.result with
      | .ok _ => []
      | .error e =>
        [.log ⟨.debug, .cache,
          "could not index ".toList ++ path ++ ": ".toList ++ e.message⟩]
    -- the empty table of a file that cannot be indexed stays in the cache too
    ⟨made.table, cache.insert path made.table,
      [.call (.index path)] ++ made.log.map .log ++ failure⟩

/-- The line of a definition in a file, zero when it is unknown. -/
def definitionLine (indexer : Text → Indexing) (name path : Text) : Action Nat := do
  return (← lookup indexer path).lineOf name

def forEach (f : α → Action β) : List α → Action (List β)
  | [] => pure []
  | x :: xs => do
    let y ← f x
    let ys ← forEach f xs
    return y :: ys

end Action
end ScriptTrace
