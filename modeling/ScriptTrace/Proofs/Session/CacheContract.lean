import Mathlib.Data.Finset.Card
import Mathlib.Data.List.DropRight
import ScriptTrace.Session.Action

/-! What a cache answers in a run of operations on it, told from the operations before.
The first look-up of a path after a reset settles the table of every path with the same components,
whatever the indexer would say later. -/
namespace ScriptTrace.Cache
open ScriptTrace.Action

/-- What may be done with a cache. -/
inductive Operation where
  | lookup (path : Text)
  | definitionLine (name path : Text)
  | reset
  | size
  deriving DecidableEq

def Operation.path? : Operation → Option Text
  | lookup path => some path
  | definitionLine _ path => some path
  | reset => none
  | size => none

inductive Answer where
  | table (entries : Source.Table)
  | line (number : Nat)
  | done
  | size (count : Nat)
  deriving DecidableEq

def carryOut (indexer : Text → Indexing) : Operation → Action Answer
  | .lookup path => do return .table (← lookup indexer path)
  | .definitionLine name path => do return .line (← definitionLine indexer name path)
  | .reset => do
    reset
    return .done
  | .size => fun cache => ⟨.size cache.size, cache, []⟩

/-- What comes of each operation in a run that begins with operation `n`. The indexer may change its
mind between operations, so it is one for each of them. -/
def outcomes (indexer : Nat → Text → Indexing) :
    Nat → Cache → List Operation → List (Outcome Answer)
  | _, _, [] => []
  | n, cache, op :: ops =>
    let outcome := (carryOut (indexer n) op).run cache
    outcome :: outcomes indexer (n + 1) outcome.cache ops

/-- The paths looked up since the last reset, each with the number of the operation. -/
def lookups (past : List Operation) : List (Nat × Text) :=
  (past.zipIdx.rtakeWhile fun e => e.1 ≠ .reset).filterMap fun e =>
    e.1.path?.map fun path => (e.2, path)

def first? (found : List (Nat × Text)) (path : Text) : Option (Nat × Text) :=
  found.find? fun e => Path.components e.2 = Path.components path

section Contract
variable (indexer : Nat → Text → Indexing) (past : List Operation)

/-- The table that a look-up of a path gives after these operations, and the calls that it makes. -/
inductive Gives (path : Text) : Source.Table → List Call → Prop
  | indexed (h : ∀ e ∈ lookups past, Path.components e.2 ≠ Path.components path) :
    Gives path (indexer past.length path).table [.index path]
  | kept {n : Nat} {first : Text} (h : first? (lookups past) path = some (n, first)) :
    Gives path (indexer n first).table []

/-- The answer to an operation after these ones, and the calls that it makes. -/
inductive Answers : Operation → Answer → List Call → Prop
  | lookup {path : Text} {table : Source.Table} {calls : List Call}
    (h : Gives indexer past path table calls) : Answers (.lookup path) (.table table) calls
  | definitionLine {name path : Text} {table : Source.Table} {calls : List Call}
    (h : Gives indexer past path table calls) :
    Answers (.definitionLine name path) (.line ((table.lookup name).getD 0)) calls
  | reset : Answers .reset .done []
  | size :
    Answers .size (.size ((lookups past).map fun e => Path.components e.2).toFinset.card) []

/-- The cache has one table for the components of each path looked up, and it is the first one. -/
structure Recalls (cache : Cache) : Prop where
  find?_eq : ∀ path, cache.find? path =
    (first? (lookups past) path).map fun e => (indexer e.1 e.2).table
  nodup : (cache.tables.map Prod.fst).Nodup
  keys_eq : (cache.tables.map Prod.fst).toFinset =
    ((lookups past).map fun e => Path.components e.2).toFinset

end Contract

section Lookups
variable {past : List Operation} {op : Operation} {path : Text}

private theorem lookups_concat_reset : lookups (past ++ [.reset]) = [] := by
  rw [lookups, List.zipIdx_append, List.zipIdx_singleton, List.rtakeWhile_concat_neg]
  · rfl
  · simp

private theorem lookups_concat (h : op ≠ .reset) :
    lookups (past ++ [op]) =
      lookups past ++ (op.path?.map fun path => (past.length, path)).toList := by
  rw [lookups, List.zipIdx_append, List.zipIdx_singleton, List.rtakeWhile_concat_pos,
    List.filterMap_append, lookups]
  · cases op <;> simp [Operation.path?]
  · simpa using h

private theorem lookups_concat_size : lookups (past ++ [.size]) = lookups past := by
  simp [lookups_concat, Operation.path?]

private theorem lookups_concat_of_path? (h : op.path? = some path) :
    lookups (past ++ [op]) = lookups past ++ [(past.length, path)] := by
  have hop : op ≠ .reset := by
    rintro rfl
    cases h
  rw [lookups_concat hop, h]
  rfl

private theorem toFinset_lookups_concat (h : op.path? = some path) :
    ((lookups (past ++ [op])).map fun e => Path.components e.2).toFinset =
      ((lookups past).map fun e => Path.components e.2).toFinset ∪ {Path.components path} := by
  rw [lookups_concat_of_path? h, List.map_append, List.toFinset_append]
  rfl

variable {found : List (Nat × Text)}

/-- There is no first look-up of a path that has not been looked up. -/
theorem first?_eq_none_iff :
    first? found path = none ↔ ∀ e ∈ found, Path.components e.2 ≠ Path.components path := by
  simp [first?]

private theorem first?_concat {n : Nat} {q : Text} :
    first? (found ++ [(n, q)]) path = (first? found path).or
      (if Path.components q = Path.components path then some (n, q) else none) := by
  simp [first?, List.find?_append, List.find?_singleton]

private theorem first?_congr {q : Text} (h : Path.components q = Path.components path) :
    first? found q = first? found path := by
  rw [first?, first?, h]

end Lookups

section Step
variable (indexer : Text → Indexing) {cache : Cache} {path : Text}

/-- A table in the cache is given without a call. -/
theorem lookup_of_find?_eq_some {table : Source.Table} (h : cache.find? path = some table) :
    ((lookup indexer path).run cache).value = table ∧
      ((lookup indexer path).run cache).cache = cache ∧
      Event.calls ((lookup indexer path).run cache).events = [] := by
  simp [Action.run, lookup, h, Event.calls]

/-- A table that is not in the cache is made with one call and kept. -/
theorem lookup_of_find?_eq_none (h : cache.find? path = none) :
    ((lookup indexer path).run cache).value = (indexer path).table ∧
      ((lookup indexer path).run cache).cache = cache.insert path (indexer path).table ∧
      Event.calls ((lookup indexer path).run cache).events = [.index path] := by
  simp only [Action.run, lookup, h, true_and]
  cases (indexer path).result <;> simp [Event.calls, List.filterMap_append, List.filterMap_map]

end Step

section Run
variable {indexer : Nat → Text → Indexing} {past : List Operation} {cache : Cache}

private theorem recalls_empty : Recalls indexer [] .empty where
  find?_eq _ := rfl
  nodup := .nil
  keys_eq := rfl

private theorem Recalls.of_lookups_eq {later : List Operation} (h : Recalls indexer past cache)
    (hl : lookups later = lookups past) : Recalls indexer later cache where
  find?_eq path := hl ▸ h.find?_eq path
  nodup := h.nodup
  keys_eq := hl ▸ h.keys_eq

theorem Recalls.mem_keys_iff (h : Recalls indexer past cache) {key : List Path.Component} :
    key ∈ cache.tables.map Prod.fst ↔ ∃ e ∈ lookups past, Path.components e.2 = key := by
  rw [← List.mem_toFinset, h.keys_eq, List.mem_toFinset, List.mem_map]

/-- The cache has one table for each file that was looked up since the last reset. -/
theorem Recalls.size_eq (h : Recalls indexer past cache) :
    cache.size = ((lookups past).map fun e => Path.components e.2).toFinset.card := by
  rw [← h.keys_eq, List.toFinset_card_of_nodup h.nodup, List.length_map]
  rfl

section Lookup
variable {op : Operation} {path : Text} (h : Recalls indexer past cache) (hop : op.path? = some path)
include h hop

private theorem Recalls.kept {table : Source.Table} (ht : cache.find? path = some table) :
    Gives indexer past path table [] ∧ Recalls indexer (past ++ [op]) cache := by
  rw [h.find?_eq] at ht
  obtain ⟨⟨n, first⟩, hf, rfl⟩ := Option.map_eq_some_iff.1 ht
  refine ⟨.kept hf, ?_, h.nodup, ?_⟩
  · intro q
    rw [h.find?_eq, lookups_concat_of_path? hop, first?_concat]
    by_cases hq : Path.components path = Path.components q
    · rw [← first?_congr hq, hf]
      rfl
    · rw [if_neg hq, Option.or_none]
  · have hc : Path.components path ∈ cache.tables.map Prod.fst :=
      h.mem_keys_iff.2 ⟨(n, first), List.mem_of_find?_eq_some hf, by simpa using List.find?_some hf⟩
    rw [toFinset_lookups_concat hop, ← h.keys_eq, Finset.union_eq_left.2]
    exact Finset.singleton_subset_iff.2 (List.mem_toFinset.2 hc)

private theorem Recalls.indexed (ht : cache.find? path = none) :
    Gives indexer past path (indexer past.length path).table [.index path] ∧
      Recalls indexer (past ++ [op]) (cache.insert path (indexer past.length path).table) := by
  rw [h.find?_eq, Option.map_eq_none_iff] at ht
  have hne := first?_eq_none_iff.1 ht
  refine ⟨.indexed hne, ?_, ?_, ?_⟩
  · intro q
    rw [find?_insert, h.find?_eq, lookups_concat_of_path? hop, first?_concat]
    by_cases hq : Path.components q = Path.components path
    · rw [if_pos hq, if_pos hq.symm, first?_congr hq, ht]
      rfl
    · rw [if_neg hq, if_neg (Ne.symm hq), Option.or_none]
  · refine List.nodup_cons.2 ⟨?_, h.nodup⟩
    rw [h.mem_keys_iff]
    rintro ⟨e, he, hc⟩
    exact hne e he hc
  · rw [toFinset_lookups_concat hop, ← h.keys_eq, Finset.union_comm]
    exact List.toFinset_cons

/-- A look-up gives what the earlier ones tell, and the cache recalls it too. -/
theorem Recalls.lookup :
    Gives indexer past path ((Action.lookup (indexer past.length) path).run cache).value
        (Event.calls ((Action.lookup (indexer past.length) path).run cache).events) ∧
      Recalls indexer (past ++ [op]) ((Action.lookup (indexer past.length) path).run cache).cache := by
  cases ht : cache.find? path with
  | some table =>
    obtain ⟨hv, hc, he⟩ := lookup_of_find?_eq_some (indexer past.length) ht
    rw [hv, hc, he]
    exact h.kept hop ht
  | none =>
    obtain ⟨hv, hc, he⟩ := lookup_of_find?_eq_none (indexer past.length) ht
    rw [hv, hc, he]
    exact h.indexed hop ht

end Lookup

/-- One operation answers as it should and leaves a cache for the operations after it. -/
theorem Recalls.carryOut (h : Recalls indexer past cache) (op : Operation) :
    Answers indexer past op ((Cache.carryOut (indexer past.length) op).run cache).value
        (Event.calls ((Cache.carryOut (indexer past.length) op).run cache).events) ∧
      Recalls indexer (past ++ [op]) ((Cache.carryOut (indexer past.length) op).run cache).cache := by
  cases op with
  | lookup path =>
    obtain ⟨hg, hr⟩ := h.lookup (show Operation.path? (.lookup path) = some path from rfl)
    simp only [Cache.carryOut, run_bind, run_pure, List.append_nil]
    exact ⟨.lookup hg, hr⟩
  | definitionLine name path =>
    obtain ⟨hg, hr⟩ := h.lookup (show Operation.path? (.definitionLine name path) = some path from rfl)
    simp only [Cache.carryOut, definitionLine, run_bind, run_pure, List.append_nil]
    exact ⟨.definitionLine hg, hr⟩
  | reset => exact ⟨.reset, recalls_empty.of_lookups_eq lookups_concat_reset⟩
  | size =>
    have hs : Answers indexer past .size (.size cache.size) [] := by
      rw [h.size_eq]
      exact .size
    exact ⟨hs, h.of_lookups_eq lookups_concat_size⟩

private theorem Recalls.forall₂_outcomes (h : Recalls indexer past cache) (ops : List Operation) :
    List.Forall₂ (fun e outcome =>
        Answers indexer ((past ++ ops).take e.2) e.1 outcome.value (Event.calls outcome.events))
      (ops.zipIdx past.length) (outcomes indexer past.length cache ops) := by
  induction ops generalizing past cache with
  | nil => exact .nil
  | cons op ops ih =>
    obtain ⟨ha, hr⟩ := h.carryOut op
    have hrest := ih hr
    rw [List.length_append, List.length_singleton, List.append_assoc, List.singleton_append] at hrest
    refine .cons ?_ hrest
    rw [List.take_left]
    exact ha

end Run

/-- Every operation of a run on a new cache answers as the operations before it make it answer. -/
theorem forall₂_outcomes_empty (indexer : Nat → Text → Indexing) (ops : List Operation) :
    List.Forall₂ (fun e outcome =>
        Answers indexer (ops.take e.2) e.1 outcome.value (Event.calls outcome.events))
      ops.zipIdx (outcomes indexer 0 .empty ops) :=
  recalls_empty.forall₂_outcomes ops

example :
    let indexer (n : Nat) (path : Text) : Indexing :=
      if n = 0 then ⟨.error (.unmatchedEnd 1), []⟩ else ⟨.ok [(path, n)], []⟩
    let slow := "/a//f.vim".toList
    let path := "/a/f.vim".toList
    (outcomes indexer 0 .empty
        [.lookup slow, .definitionLine path path, .size, .reset, .definitionLine path path, .size]).map
      (fun outcome => (outcome.value, Event.calls outcome.events)) =
      [(.table [], [.index slow]), (.line 0, []), (.size 1, []), (.done, []),
        (.line 4, [.index path]), (.size 1, [])] := by
  decide +kernel

end ScriptTrace.Cache
