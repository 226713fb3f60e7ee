import Mathlib.Order.Bounds.Basic
import ScriptTrace.Proofs.Source.Definitions

/-! The nesting of the definitions in a source.
An index exists exactly when definitions open and close in pairs, and otherwise the line that is
blamed is found by counting. -/
namespace ScriptTrace.Source
open Text

def opensDefinition (line : Text) : Bool :=
  match LineKind.classify line with
  | .definition _ => true
  | _ => false

def closesDefinition (line : Text) : Bool :=
  LineKind.classify line = .closing

def openings (ls : List Text) (count : Nat) : Nat :=
  (ls.take count).countP opensDefinition

def closings (ls : List Text) (count : Nat) : Nat :=
  (ls.take count).countP closesDefinition

/-- How many more of the first lines open a definition than close one. -/
def depth (ls : List Text) (count : Nat) : Int :=
  openings ls count - closings ls count

section Depth
variable {ls : List Text} {line : Text} {i : Nat}

private theorem depth_nonneg_iff : 0 ≤ depth ls i ↔ closings ls i ≤ openings ls i := by
  rw [depth]
  omega

private theorem depth_of_length_le (h : ls.length ≤ i) : depth ls i = depth ls ls.length := by
  simp only [depth, openings, closings, List.take_of_length_le h, List.take_length]

private theorem depth_succ (h : ls[i]? = some line) :
    depth ls (i + 1) = depth ls i +
      ((if opensDefinition line then 1 else 0) - if closesDefinition line then 1 else 0) := by
  simp only [depth, openings, closings, List.take_add_one, h, Option.toList_some,
    List.countP_append, List.countP_singleton]
  split <;> split <;> omega

private theorem depth_succ_of_definition {name : Text} (h : ls[i]? = some line)
    (hc : LineKind.classify line = .definition name) : depth ls (i + 1) = depth ls i + 1 := by
  simp [depth_succ h, opensDefinition, closesDefinition, hc]

private theorem depth_succ_of_closing (h : ls[i]? = some line)
    (hc : LineKind.classify line = .closing) : depth ls (i + 1) = depth ls i - 1 := by
  simp [depth_succ h, opensDefinition, closesDefinition, hc, Int.sub_eq_add_neg]

private theorem depth_succ_of_other (h : ls[i]? = some line)
    (hc : LineKind.classify line = .other) : depth ls (i + 1) = depth ls i := by
  simp [depth_succ h, opensDefinition, closesDefinition, hc]

end Depth

/-- The definitions that are open behind the first lines, the innermost first. Below each of them is
what was open before its own line, and no later line has come out of it. -/
inductive OpenBehind (ls : List Text) : Nat → List (Text × Nat) → Prop where
  | outside {count : Nat} (h : depth ls count = 0) : OpenBehind ls count []
  | inside {count i : Nat} {line name : Text} {below : List (Text × Nat)}
    (hline : ls[i]? = some line) (hname : LineKind.classify line = .definition name)
    (hbelow : OpenBehind ls i below) (hcount : i < count)
    (hdepth : depth ls count = depth ls (i + 1))
    (hwithin : ∀ j, i < j → j ≤ count → depth ls (i + 1) ≤ depth ls j) :
    OpenBehind ls count ((name, i + 1) :: below)

namespace OpenBehind
variable {ls : List Text} {a b : Nat} {opened : List (Text × Nat)}

private theorem depth_eq (h : OpenBehind ls a opened) : depth ls a = opened.length := by
  induction h with
  | outside h => exact h
  | inside hline hname _ _ hdepth _ ih =>
    rw [hdepth, depth_succ_of_definition hline hname, ih, List.length_cons, Int.natCast_succ]

private theorem later (h : OpenBehind ls a opened) (hab : a ≤ b) (hd : depth ls b = depth ls a)
    (hw : ∀ j, a ≤ j → j ≤ b → depth ls a ≤ depth ls j) : OpenBehind ls b opened := by
  cases h with
  | outside h => exact .outside (hd.trans h)
  | inside hline hname hbelow hcount hdepth hwithin =>
    refine .inside hline hname hbelow (by omega) (hd.trans hdepth) fun j hj hjb => ?_
    rcases Nat.le_total j a with hja | haj
    · exact hwithin j hj hja
    · rw [← hdepth]
      exact hw j haj hjb

end OpenBehind

namespace Scan
variable {ls : List Text} {s next last : Scan} {i : Nat} {line : Text} {e : IndexError}

private theorem openBehind_start : OpenBehind ls 0 start.opened :=
  .outside (by simp [depth, openings, closings])

private theorem openBehind_step (h : OpenBehind ls i s.opened) (hline : ls[i]? = some line)
    (hs : s.step (i + 1) line = .ok next) : OpenBehind ls (i + 1) next.opened := by
  cases steps_of_step hs with
  | opens hname =>
    refine .inside hline hname h (Nat.lt_succ_self i) rfl fun j hj hji => ?_
    obtain rfl : j = i + 1 := Nat.le_antisymm hji hj
    exact Int.le_refl _
  | closes hclosing ho =>
    rw [ho] at h
    cases h with
    | @inside _ k _ _ _ hopen hname hbelow hcount hdepth hwithin =>
      -- the line that closes comes out to the depth in front of the line that opened
      have hdown := depth_succ_of_closing hline hclosing
      have hup := depth_succ_of_definition hopen hname
      refine hbelow.later (by omega) (by omega) fun j hkj hji => ?_
      obtain rfl | rfl | ⟨hk, hi⟩ : j = k ∨ j = i + 1 ∨ (k < j ∧ j ≤ i) := by omega
      · exact Int.le_refl _
      · omega
      · have := hwithin j hk hi
        omega
  | other hother =>
    have hd := depth_succ_of_other hline hother
    refine h.later (Nat.le_succ i) hd fun j hij hji => ?_
    obtain rfl | rfl : j = i ∨ j = i + 1 := by omega
    · exact Int.le_refl _
    · exact Int.le_of_eq hd.symm

private theorem depth_of_step_error (h : OpenBehind ls i s.opened) (hline : ls[i]? = some line)
    (hs : s.step (i + 1) line = .error e) :
    e = .unmatchedEnd (i + 1) ∧ depth ls (i + 1) < 0 := by
  cases steps_of_step hs with
  | unmatched hclosing ho =>
    have hd := h.depth_eq
    rw [ho, List.length_nil] at hd
    refine ⟨rfl, ?_⟩
    rw [depth_succ_of_closing hline hclosing, hd]
    decide

/-- How a reading of the lines behind the first ones ends: all is read and nothing has closed too
much, or the first line that does is blamed. -/
inductive Reads (ls : List Text) (i : Nat) : Except IndexError Scan → Prop where
  | whole {last : Scan} (h : OpenBehind ls ls.length last.opened)
    (hd : ∀ j, i ≤ j → 0 ≤ depth ls j) : Reads ls i (.ok last)
  | unmatched {k : Nat} (hk : i < k) (hneg : depth ls k < 0)
    (hd : ∀ j, i ≤ j → j < k → 0 ≤ depth ls j) : Reads ls i (.error (.unmatchedEnd k))

private theorem Reads.extend {r : Except IndexError Scan} (h : Reads ls (i + 1) r)
    (hi : 0 ≤ depth ls i) : Reads ls i r := by
  have hstep {j : Nat} (hj : i ≤ j) : j = i ∨ i + 1 ≤ j := by omega
  cases h with
  | whole h hd =>
    refine .whole h fun j hj => ?_
    obtain rfl | hj := hstep hj
    · exact hi
    · exact hd j hj
  | unmatched hk hneg hd =>
    refine .unmatched (Nat.lt_of_succ_lt hk) hneg fun j hj hjk => ?_
    obtain rfl | hj := hstep hj
    · exact hi
    · exact hd j hj hjk

/-- A scan that has the right definitions open reads on as the depth of the lines tells. -/
theorem reads_run (h : OpenBehind ls i s.opened) (hi : i ≤ ls.length) :
    Reads ls i (s.run (i + 1) (ls.drop i)) := by
  have hpos : 0 ≤ depth ls i := h.depth_eq ▸ Int.natCast_nonneg _
  -- on the lines that are left, with what is open in front of them as the invariant
  induction hrest : ls.drop i generalizing s i with
  | nil =>
    obtain rfl : i = ls.length := Nat.le_antisymm hi (List.drop_eq_nil_iff.1 hrest)
    exact .whole h fun j hj => depth_of_length_le hj ▸ hpos
  | cons line rest ih =>
    have hline : ls[i]? = some line := by rw [← List.head?_drop, hrest, List.head?_cons]
    have htail : ls.drop (i + 1) = rest := by rw [← List.tail_drop, hrest, List.tail_cons]
    have hlt : i < ls.length := (List.getElem?_eq_some_iff.1 hline).1
    rw [run]
    cases hs : s.step (i + 1) line with
    | error e =>
      obtain ⟨rfl, hneg⟩ := depth_of_step_error h hline hs
      refine .unmatched (Nat.lt_succ_self i) hneg fun j hj hji => ?_
      obtain rfl : j = i := by omega
      exact hpos
    | ok next =>
      have hnext := openBehind_step h hline hs
      exact (ih hnext hlt (hnext.depth_eq ▸ Int.natCast_nonneg _) htail).extend hpos

end Scan

/-- The line of this number opens a definition, and no later line comes out of it. -/
def Unclosed (ls : List Text) (number : Nat) : Prop :=
  (∃ name, DefinedAt ls number name) ∧ ∀ j, number ≤ j → depth ls number ≤ depth ls j

private theorem OpenBehind.isGreatest_unclosed {ls : List Text} {name : Text} {number : Nat}
    {below : List (Text × Nat)} (h : OpenBehind ls ls.length ((name, number) :: below)) :
    DefinedAt ls number name ∧ IsGreatest {i | Unclosed ls i} number := by
  cases h with
  | @inside _ k line _ _ hline hname hbelow hcount hdepth hwithin =>
    have hdef : DefinedAt ls (k + 1) name := ⟨k, line, rfl, hline, hname⟩
    refine ⟨hdef, ⟨⟨name, hdef⟩, fun j hj => ?_⟩, ?_⟩
    · rcases Nat.le_total j ls.length with hjn | hnj
      · exact hwithin j hj hjn
      · rw [depth_of_length_le hnj, hdepth]
    · rintro - ⟨⟨other, m, line', rfl, hline', hother⟩, hlater⟩
      by_contra hlt
      have hm : m < ls.length := (List.getElem?_eq_some_iff.1 hline').1
      -- a definition inside the open one begins deeper than the source ends
      have hup := depth_succ_of_definition hline' hother
      have hin := hwithin m (by omega) (by omega)
      have hend := hlater ls.length hm
      omega

/-- How the indexing of lines ends, told by counting the lines that open and close definitions. -/
inductive Nests (ls : List Text) : Except IndexError Table → Prop where
  | balanced {table : Table} (hd : ∀ i, closings ls i ≤ openings ls i)
    (hn : openings ls ls.length = closings ls ls.length) : Nests ls (.ok table)
  | unmatched {number : Nat} (h : IsLeast {i | openings ls i < closings ls i} number) :
    Nests ls (.error (.unmatchedEnd number))
  | unterminated {name : Text} {number : Nat} (hd : ∀ i, closings ls i ≤ openings ls i)
    (hn : openings ls ls.length ≠ closings ls ls.length) (hname : DefinedAt ls number name)
    (h : IsGreatest {i | Unclosed ls i} number) : Nests ls (.error (.unterminated name number))

private theorem nests_index (source : Text) : Nests (lines source) (index source) := by
  have hread : Scan.Reads (lines source) 0 (Scan.start.run 1 (lines source)) :=
    Scan.reads_run Scan.openBehind_start (Nat.zero_le _)
  rw [index]
  generalize lines source = ls at hread ⊢
  generalize Scan.start.run 1 ls = read at hread
  cases hread with
  | @unmatched k hk hneg hd =>
    refine .unmatched ⟨?_, fun j hj => ?_⟩
    · exact Nat.lt_of_not_le fun hle => Int.not_lt.2 (depth_nonneg_iff.2 hle) hneg
    · by_contra hjk
      have hle := depth_nonneg_iff.1 (hd j (Nat.zero_le j) (Nat.lt_of_not_le hjk))
      exact Nat.not_lt.2 hle hj
  | @whole last h hd =>
    have hbal (i : Nat) := depth_nonneg_iff.1 (hd i (Nat.zero_le i))
    have hdepth := h.depth_eq
    rw [depth] at hdepth
    obtain ⟨table, opened⟩ := last
    dsimp only [Scan.close] at h hdepth ⊢
    cases opened with
    | nil =>
      refine .balanced hbal ?_
      rw [List.length_nil] at hdepth
      omega
    | cons top below =>
      obtain ⟨hname, hg⟩ := h.isGreatest_unclosed
      refine .unterminated hbal (fun he => ?_) hname hg
      rw [he, List.length_cons] at hdepth
      omega

/-- A source has an index exactly when no line closes more than was opened before it and all that
was opened is closed. Otherwise the first line that closes too much is blamed, and if there is none
the innermost definition that stays open, with its line and its written name. -/
theorem index_nesting (source : Text) :
    ((∃ table, index source = .ok table) ↔
      (∀ i, closings (lines source) i ≤ openings (lines source) i) ∧
        openings (lines source) (lines source).length =
          closings (lines source) (lines source).length) ∧
    (∀ number, index source = .error (.unmatchedEnd number) ↔
      IsLeast {i | openings (lines source) i < closings (lines source) i} number) ∧
    ((∃ name number, index source = .error (.unterminated name number)) ↔
      (∀ i, closings (lines source) i ≤ openings (lines source) i) ∧
        openings (lines source) (lines source).length ≠
          closings (lines source) (lines source).length) ∧
    (∀ name number, index source = .error (.unterminated name number) →
      DefinedAt (lines source) number name ∧
        IsGreatest {i | Unclosed (lines source) i} number) := by
  have h := nests_index source
  generalize index source = outcome at h
  generalize lines source = ls at h ⊢
  cases h with
  | balanced hd hn =>
    refine ⟨⟨fun _ => ⟨hd, hn⟩, fun _ => ⟨_, rfl⟩⟩, fun number => ⟨nofun, fun hl => ?_⟩,
      ⟨nofun, fun hu => absurd hn hu.2⟩, nofun⟩
    exact absurd (hd number) (Nat.not_le.2 hl.1)
  | unmatched h =>
    have hbad : ¬ ∀ i, closings ls i ≤ openings ls i := fun hd =>
      absurd (hd _) (Nat.not_le.2 h.1)
    refine ⟨⟨nofun, fun hb => absurd hb.1 hbad⟩, fun number => ⟨fun he => ?_, fun hl => ?_⟩,
      ⟨nofun, fun hu => absurd hu.1 hbad⟩, nofun⟩
    · cases he
      exact h
    · rw [hl.unique h]
  | unterminated hd hn hname h =>
    refine ⟨⟨nofun, fun hb => absurd hb.2 hn⟩, fun number => ⟨nofun, fun hl => ?_⟩,
      ⟨fun _ => ⟨hd, hn⟩, fun _ => ⟨_, _, rfl⟩⟩, fun name number he => ?_⟩
    · exact absurd (hd number) (Nat.not_le.2 hl.1)
    · cases he
      exact ⟨hname, h⟩

-- A dictionary function has no key, yet it takes part in the nesting.
example : index "fu d.a()\n fu F()\n endf".toList = .error (.unterminated "d.a".toList 1) := by
  decide +kernel

end ScriptTrace.Source
