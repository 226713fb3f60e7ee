import Mathlib.Data.List.Pairwise
import ScriptTrace.Command.Run
import ScriptTrace.Proofs.Source.Definitions
import ScriptTrace.Proofs.Text.Utf8

/-! The order in which an index is shown.
A line defines one name at most, and a name that is defined again leaves its old line, so the lines
of the entries leave no choice of their order. -/
namespace ScriptTrace.Source
open Text

namespace Table
variable {table order : Table} {number : Nat}

/-- The entries stand in the order of their lines, all of which are in front of this number. -/
structure Ordered (table : Table) (number : Nat) : Prop where
  increasing : table.Pairwise fun a b => a.2 < b.2
  before : ∀ entry ∈ table, entry.2 < number

private theorem Ordered.succ (h : table.Ordered number) : table.Ordered (number + 1) where
  increasing := h.increasing
  before entry he := Nat.lt_succ_of_lt (h.before entry he)

private theorem Ordered.insert (h : table.Ordered number) (name : Text) :
    (table.insert name number).Ordered (number + 1) where
  increasing := by
    refine List.pairwise_append.2 ⟨h.increasing.filter _, List.pairwise_singleton _ _, ?_⟩
    intro entry he new hn
    rw [List.mem_singleton.1 hn]
    exact h.before entry (List.mem_filter.1 he).1
  before entry he := by
    rcases List.mem_append.1 he with he | he
    · exact Nat.lt_succ_of_lt (h.before entry (List.mem_filter.1 he).1)
    · rw [List.mem_singleton.1 he]
      exact Nat.lt_succ_self number

private theorem Ordered.define (h : table.Ordered number) (name : Text) :
    (table.define name number).Ordered (number + 1) := by
  rw [Table.define]
  cases key? name with
  | none => exact h.succ
  | some key => exact h.insert key

section Increasing
variable (h : table.Pairwise fun a b => a.2 < b.2)
include h

end Increasing
end Table

namespace Scan
variable {s next : Scan} {number : Nat}

end Scan

private def redefining : Text :=
  "fu B()\nendf\nfu A()\nendf\nfu! B()\nendf\nfu <SID>c()\nendf\n".toList

private def redefiningFile : Command.Surroundings where
  read _ := .ok (Utf8.encode redefining)
  input := []
  home := none

end ScriptTrace.Source
