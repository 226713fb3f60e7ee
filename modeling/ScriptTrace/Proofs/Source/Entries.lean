import Mathlib.Data.List.Nodup
import Mathlib.Order.Bounds.Defs
import ScriptTrace.Proofs.Source.Definitions
import ScriptTrace.Proofs.Source.Keys

/-! The entries of an index.
A name stands in an index once, with the greatest line at which some spelling of it is defined. -/
namespace ScriptTrace.Source
open Text

namespace Table

def Unique (table : Table) : Prop :=
  (table.map Prod.fst).Nodup

private theorem Unique.insert {table : Table} (h : table.Unique) (name : Text) (line : Nat) :
    (table.insert name line).Unique := by
  have hs : ((table.filter (·.1 ≠ name)).map Prod.fst).Nodup :=
    h.sublist (List.filter_sublist.map _)
  rw [Unique, Table.insert, List.map_append, List.nodup_append]
  refine ⟨hs, List.nodup_singleton _, fun other ho new hn => ?_⟩
  obtain ⟨entry, he, rfl⟩ := List.mem_map.1 ho
  rw [List.mem_singleton.1 hn]
  simpa using (List.mem_filter.1 he).2

private theorem Unique.define {table : Table} (h : table.Unique) (name : Text) (number : Nat) :
    (table.define name number).Unique := by
  rw [Table.define]
  cases key? name with
  | none => exact h
  | some key => exact h.insert key number

theorem Unique.mem_iff {table : Table} (h : table.Unique) {name : Text} {line : Nat} :
    (name, line) ∈ table ↔ table.lookup name = some line := by
  rw [List.lookup_eq_some_iff]
  constructor
  · intro hm
    obtain ⟨before, after, rfl⟩ := List.append_of_mem hm
    refine ⟨before, after, rfl, fun entry he => ?_⟩
    rw [Unique, List.map_append, List.nodup_append] at h
    have hne := h.2.2 entry.1 (List.mem_map_of_mem he) name (by simp)
    simpa using hne.symm
  · rintro ⟨before, after, rfl, -⟩
    simp

end Table

namespace Scan
variable {s next : Scan} {number : Nat}

private theorem unique_step {line : Text} (h : s.table.Unique)
    (hs : s.step number line = .ok next) : next.table.Unique := by
  cases steps_of_step hs with
  | opens => exact h.define _ number
  | closes => exact h
  | other => exact h

end Scan

/-- No key of a source has two lines. -/
theorem unique_of_index {source : Text} {table : Table} (h : index source = .ok table) :
    table.Unique := by
  have hstart : Scan.start.table.Unique := List.nodup_nil
  exact Scan.run_keeps (P := fun s _ => s.table.Unique) Scan.unique_step hstart
    (index_eq_ok_iff.1 h)

/-- The last line that defines a key is the greatest of those that open a definition under it. -/
theorem lastDefinition_iff {ls : List Text} {key : Text} {number : Nat} :
    LastDefinition ls key number ↔
      IsGreatest {i | ∃ name, DefinedAt ls i name ∧ KeyOf name key} number := by
  have hline (i : Nat) : ls[i]?.bind lineKey? = some key ↔
      ∃ name, DefinedAt ls (i + 1) name ∧ KeyOf name key := by
    constructor
    · intro h
      obtain ⟨line, hl, hk⟩ := Option.bind_eq_some_iff.1 h
      obtain ⟨name, hc, hn⟩ := lineKey?_eq_some_iff.1 hk
      exact ⟨name, ⟨i, line, rfl, hl, hc⟩, keyOf_iff.2 hn⟩
    · rintro ⟨name, ⟨j, line, hj, hl, hc⟩, hn⟩
      obtain rfl := Nat.succ.inj hj
      rw [hl]
      exact lineKey?_eq_some_iff.2 ⟨name, hc, keyOf_iff.1 hn⟩
  constructor
  · rintro ⟨i, rfl, hi, hlast⟩
    refine ⟨(hline i).1 hi, ?_⟩
    rintro - ⟨name, ⟨j, line, rfl, hl, hc⟩, hn⟩
    by_contra hij
    exact hlast j (by omega) ((hline j).2 ⟨name, ⟨j, line, rfl, hl, hc⟩, hn⟩)
  · rintro ⟨⟨name, ⟨i, line, rfl, hl, hc⟩, hn⟩, hup⟩
    refine ⟨i, rfl, (hline i).2 ⟨name, ⟨i, line, rfl, hl, hc⟩, hn⟩, fun j hij hj => ?_⟩
    have hle : j + 1 ≤ i + 1 := hup ((hline j).1 hj)
    omega

/-- A source that has an index leads a key to a line exactly when the line is the last one that
defines a name of this key, and the table has one entry for the key at most. -/
theorem index_entry_iff {source : Text} {table : Table} (h : index source = .ok table)
    (key : Text) (number : Nat) :
    (table.lookup key = some number ↔
      IsGreatest {i | ∃ name, DefinedAt (lines source) i name ∧ KeyOf name key} number) ∧
    ((key, number) ∈ table ↔ table.lookup key = some number) :=
  ⟨(lookup_index_iff h).trans lastDefinition_iff, (unique_of_index h).mem_iff⟩

/-- A source in which definitions stand in a conditional and in one another, one of them without a
key, and which spells a key in three ways. -/
private def crowded : Text :=
  ("if 1\n fu s:a()\n  fu F()\n  endf\n endf\nendif\n" ++
    "fu <SID>a()\n fu d.a()\n endf\nendf\n:fu! <sId>a()\nendf").toList

theorem index_entry_crowded :
    index crowded = .ok [("F".toList, 3), ("s:a".toList, 11)] ∧
      IsGreatest {i | ∃ name, DefinedAt (lines crowded) i name ∧ KeyOf name "s:a".toList} 11 := by
  have h : index crowded = .ok [("F".toList, 3), ("s:a".toList, 11)] := by decide +kernel
  exact ⟨h, (index_entry_iff h "s:a".toList 11).1.1 (by decide)⟩

end ScriptTrace.Source
