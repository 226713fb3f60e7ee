import Mathlib.Data.List.Infix
import ScriptTrace.Source.Index

/-! What the index of a source holds: for each key the line of its last definition.
What one line does to a reading is told once, and the rest is counted from that. -/
namespace ScriptTrace.Source
open Text

namespace Table

/-- An insertion changes what is found under one name. -/
theorem lookup_insert (table : Table) (name other : Text) (line : Nat) :
    (table.insert name line).lookup other =
      if other = name then some line else table.lookup other := by
  induction table with
  | nil => exact lookup_cons_eq_ite (name, line) [] other
  | cons entry rest ih =>
    rw [insert] at ih ⊢
    rw [lookup_cons_eq_ite]
    by_cases he : entry.1 = name
    · rw [List.filter_cons_of_neg (by simpa using he), ih, he]
      split <;> rfl
    · rw [List.filter_cons_of_pos (by simpa using he), List.cons_append, lookup_cons_eq_ite, ih]
      by_cases ho : other = entry.1
      · have hn : other ≠ name := fun h => he (ho.symm.trans h)
        rw [if_pos ho, if_neg hn, if_pos ho]
      · rw [if_neg ho, if_neg ho]

def define (table : Table) (name : Text) (number : Nat) : Table :=
  match key? name with
  | some key => table.insert key number
  | none => table

private theorem lookup_define (table : Table) (name other : Text) (number : Nat) :
    (table.define name number).lookup other =
      if key? name = some other then some number else table.lookup other := by
  rw [define]
  cases key? name with
  | none => rfl
  | some key => simp only [lookup_insert, Option.some_inj, eq_comm (a := key)]

end Table

/-- The line of this number, counted from one, opens the definition of a function with this written
name. -/
def DefinedAt (ls : List Text) (number : Nat) (name : Text) : Prop :=
  ∃ i line, number = i + 1 ∧ ls[i]? = some line ∧ LineKind.classify line = .definition name

def lineKey? (line : Text) : Option Text :=
  match LineKind.classify line with
  | .definition name => key? name
  | _ => none

def lastDefinition (key : Text) (number : Nat) : List Text → Option Nat
  | [] => none
  | line :: rest =>
    (lastDefinition key (number + 1) rest).or
      (if lineKey? line = some key then some number else none)

/-- The line of this number, counted from one, defines the key, and no line below it does. -/
def LastDefinition (ls : List Text) (key : Text) (number : Nat) : Prop :=
  ∃ i, number = i + 1 ∧ ls[i]?.bind lineKey? = some key ∧
    ∀ j, i < j → ls[j]?.bind lineKey? ≠ some key

namespace Scan
variable {s next : Scan} {number : Nat}

/-- What the line of a number does to a reading. -/
inductive Steps (s : Scan) (number : Nat) (line : Text) : Except IndexError Scan → Prop where
  | opens {name : Text} (hc : LineKind.classify line = .definition name) :
    Steps s number line (.ok ⟨s.table.define name number, (name, number) :: s.opened⟩)
  | closes {top : Text × Nat} {below : List (Text × Nat)} (hc : LineKind.classify line = .closing)
    (ho : s.opened = top :: below) : Steps s number line (.ok ⟨s.table, below⟩)
  | unmatched (hc : LineKind.classify line = .closing) (ho : s.opened = []) :
    Steps s number line (.error (.unmatchedEnd number))
  | other (hc : LineKind.classify line = .other) : Steps s number line (.ok s)

private theorem steps_step (s : Scan) (number : Nat) (line : Text) :
    Steps s number line (s.step number line) := by
  rw [step]
  split
  · next name hc => exact .opens hc
  · next hc =>
    split
    · next ho => exact .unmatched hc ho
    · next ho => exact .closes hc ho
  · next hc => exact .other hc

theorem steps_of_step {line : Text} {outcome : Except IndexError Scan}
    (h : s.step number line = outcome) : Steps s number line outcome :=
  h ▸ steps_step s number line

/-- What every line keeps is there at the end, with the number that a next line would have. -/
theorem run_keeps {P : Scan → Nat → Prop}
    (hstep : ∀ {s next : Scan} {number : Nat} {line : Text}, P s number →
      s.step number line = .ok next → P next (number + 1))
    {ls : List Text} {last : Scan} (h : P s number) (hr : s.run number ls = .ok last) :
    P last (number + ls.length) := by
  induction ls generalizing s number with
  | nil =>
    cases hr
    exact h
  | cons line rest ih =>
    rw [run] at hr
    split at hr
    · cases hr
    · next next hs =>
      rw [List.length_cons, Nat.add_comm rest.length, ← Nat.add_assoc]
      exact ih (hstep h hs) hr

private theorem step_lookup {line : Text} (h : s.step number line = .ok next) (key : Text) :
    next.table.lookup key =
      (if lineKey? line = some key then some number else none).or (s.table.lookup key) := by
  rw [lineKey?]
  cases steps_of_step h with
  | opens hc =>
    simp only [hc, Table.lookup_define]
    split <;> rfl
  | closes hc => simp [hc]
  | other hc => simp [hc]

/-- After some lines a key has the last definition among them, or else what it had before. -/
theorem run_lookup {ls : List Text} {last : Scan} (h : s.run number ls = .ok last) (key : Text) :
    last.table.lookup key = (lastDefinition key number ls).or (s.table.lookup key) := by
  induction ls generalizing s number with
  | nil =>
    cases h
    rfl
  | cons line rest ih =>
    rw [run] at h
    split at h
    · cases h
    · next next hs => rw [ih h, step_lookup hs, lastDefinition, Option.or_assoc]

end Scan

section LastDefinition
variable {key : Text} {ls : List Text} {number : Nat}

theorem lastDefinition_eq_none_iff :
    lastDefinition key number ls = none ↔ ∀ j : Nat, ls[j]?.bind lineKey? ≠ some key := by
  induction ls generalizing number with
  | nil => simp [lastDefinition]
  | cons line rest ih =>
    rw [lastDefinition, Option.or_eq_none_iff, ih, ite_eq_right_iff]
    constructor
    · rintro ⟨hr, hl⟩ j
      cases j with
      | zero => exact fun h => absurd (hl h) (Option.some_ne_none number)
      | succ j => exact hr j
    · exact fun h => ⟨fun j => h (j + 1), fun hl => absurd hl (h 0)⟩

/-- Only the last of the lines with one key counts. -/
theorem lastDefinition_eq_some_iff {line : Nat} :
    lastDefinition key number ls = some line ↔
      ∃ i, line = number + i ∧ ls[i]?.bind lineKey? = some key ∧
        ∀ j, i < j → ls[j]?.bind lineKey? ≠ some key := by
  induction ls generalizing number with
  | nil => simp [lastDefinition]
  | cons first rest ih =>
    rw [lastDefinition, Option.or_eq_some_iff, lastDefinition_eq_none_iff, ih]
    constructor
    · rintro (⟨i, rfl, hi, hlast⟩ | ⟨hnone, hf⟩)
      · refine ⟨i + 1, by omega, hi, fun j hj => ?_⟩
        obtain ⟨j, rfl⟩ := Nat.exists_eq_add_of_lt hj
        exact hlast (i + 1 + j) (by omega)
      · obtain ⟨hk, rfl⟩ : lineKey? first = some key ∧ number = line := by simpa using hf
        refine ⟨0, rfl, hk, fun j hj => ?_⟩
        obtain ⟨j, rfl⟩ := Nat.exists_eq_add_of_lt hj
        simpa [Nat.add_comm] using hnone j
    · rintro ⟨i, rfl, hi, hlast⟩
      cases i with
      | zero => exact Or.inr ⟨fun j => hlast (j + 1) (Nat.succ_pos j), if_pos hi⟩
      | succ i =>
        exact Or.inl ⟨i, by omega, hi, fun j hj => hlast (j + 1) (Nat.succ_lt_succ hj)⟩

end LastDefinition

/-- A source has an index when all of it is read and no definition stays open. -/
theorem index_eq_ok_iff {source : Text} {table : Table} :
    index source = .ok table ↔ Scan.start.run 1 (lines source) = .ok ⟨table, []⟩ := by
  rw [index]
  cases Scan.start.run 1 (lines source) with
  | error e => simp
  | ok last =>
    obtain ⟨found, opened⟩ := last
    cases opened <;> simp [Scan.close]

/-- The table of a source has for each key the last line that defines it. -/
theorem lookup_index_iff {source : Text} {table : Table} (h : index source = .ok table)
    {key : Text} {number : Nat} :
    table.lookup key = some number ↔ LastDefinition (lines source) key number := by
  have hr := Scan.run_lookup (index_eq_ok_iff.1 h) key
  rw [Scan.start, List.lookup_nil, Option.or_none] at hr
  rw [hr, lastDefinition_eq_some_iff]
  simp only [LastDefinition, Nat.add_comm]

theorem lineKey?_eq_some_iff {line key : Text} :
    lineKey? line = some key ↔
      ∃ name, LineKind.classify line = .definition name ∧ key? name = some key := by
  rw [lineKey?]
  constructor
  · intro h
    split at h
    · next name hc => exact ⟨name, hc, h⟩
    · cases h
  · rintro ⟨name, hc, hk⟩
    rw [hc]
    exact hk

/-- Every line in a table is a line of the source that defines a name with this key. -/
theorem definition_of_lookup {source : Text} {table : Table} (h : index source = .ok table)
    {key : Text} {number : Nat} (hk : table.lookup key = some number) :
    0 < number ∧ ∃ line name, (lines source)[number - 1]? = some line ∧
      LineKind.classify line = .definition name ∧ key? name = some key := by
  obtain ⟨i, rfl, hi, -⟩ := (lookup_index_iff h).1 hk
  obtain ⟨line, hl, hkey⟩ := Option.bind_eq_some_iff.1 hi
  obtain ⟨name, hc, hn⟩ := lineKey?_eq_some_iff.1 hkey
  exact ⟨Nat.succ_pos i, line, name, hl, hc, hn⟩

end ScriptTrace.Source
