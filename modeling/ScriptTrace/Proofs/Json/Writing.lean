import Mathlib.Tactic.SplitIfs
import ScriptTrace.Json.Writer

/-! A JSON value in one line.
What is written has no control character, so a line feed behind it ends it. -/
namespace ScriptTrace

/-- A text without the control characters below the blank, line ends among them. -/
def Text.InLine (s : Text) : Prop := ∀ c ∈ s, 0x20 ≤ c.toNat

namespace Text
variable {c : Char} {s t : Text}

instance : DecidablePred InLine :=
  fun s => List.decidableBAll (fun c : Char => 0x20 ≤ c.toNat) s

@[simp] theorem inLine_nil : InLine [] := by
  simp [InLine]

@[simp] theorem inLine_cons : InLine (c :: s) ↔ 0x20 ≤ c.toNat ∧ InLine s := by
  simp [InLine]

@[simp] theorem inLine_append : InLine (s ++ t) ↔ InLine s ∧ InLine t := by
  simp only [InLine, List.forall_mem_append]

private theorem inLine_replicate (count : Nat) (h : 0x20 ≤ c.toNat) :
    InLine (List.replicate count c) := by
  intro d hd
  rwa [List.eq_of_mem_replicate hd]

theorem InLine.subset (h : InLine s) (hs : t ⊆ s) : InLine t :=
  fun c hc => h c (hs hc)

theorem InLine.notMem (h : InLine s) (hc : c.toNat < 0x20) : c ∉ s :=
  fun hs => absurd (h c hs) (Nat.not_le.2 hc)

private theorem inLine_decimal (n : Nat) : InLine (decimal n) := by
  intro c hc
  have hd : c.isDigit = true := Nat.isDigit_of_mem_toDigits (by decide) (by decide) hc
  have hl : 48 ≤ c.toNat := (Char.isDigit_iff_toNat.1 hd).1
  omega

private theorem inLine_signedDecimal (n : Int) : InLine (signedDecimal n) := by
  cases n with
  | ofNat n => exact inLine_decimal n
  | negSucc n => exact inLine_cons.2 ⟨by decide, inLine_decimal _⟩

end Text

namespace Binary64
open Text

private theorem inLine_positional {ds : Text} (h : InLine ds) (exponent : Int) :
    InLine (positional ds exponent) := by
  have hz (count : Nat) : InLine (List.replicate count '0') := inLine_replicate count (by decide)
  cases exponent with
  | ofNat e =>
    rw [positional, inLine_append, inLine_append]
    exact ⟨⟨h, hz e⟩, by decide⟩
  | negSucc e =>
    have hp := inLine_append.2 ⟨hz (e + 2 - ds.length), h⟩
    rw [positional, inLine_append, inLine_append]
    exact ⟨⟨hp.subset (List.take_subset _ _), by decide⟩, hp.subset (List.drop_subset _ _)⟩

private theorem inLine_scientific {ds : Text} (h : InLine ds) (lead : Int) :
    InLine (scientific ds lead) := by
  have hs : InLine ['e', if lead < 0 then '-' else '+'] := by
    split <;> decide
  have hp : InLine (if ds.drop 1 = [] then [] else '.' :: ds.drop 1) := by
    split
    · exact inLine_nil
    · exact inLine_cons.2 ⟨by decide, h.subset (List.drop_subset _ _)⟩
  simp only [scientific, inLine_append]
  exact ⟨⟨⟨h.subset (List.take_subset _ _), hp⟩, hs⟩, inLine_decimal _⟩

theorem inLine_display (x : Binary64) : InLine x.display := by
  unfold display
  generalize shortest x.units = decimals
  obtain ⟨digits, exponent⟩ := decimals
  have hd := inLine_decimal digits
  have hb : InLine (if isPositional (exponent + (decimal digits).length - 1) then
      positional (decimal digits) exponent
      else scientific (decimal digits) (exponent + (decimal digits).length - 1)) := by
    split
    · exact inLine_positional hd _
    · exact inLine_scientific hd _
  dsimp only
  split
  · exact inLine_cons.2 ⟨by decide, hb⟩
  · exact hb

end Binary64

namespace Json
open Text

private theorem inLine_escapedChar (c : Char) : InLine (escapedChar c) := by
  have hlow : ∀ n < 0x20, InLine (escapedChar (Char.ofNat n)) := by decide
  by_cases hc : c.toNat < 0x20
  · have h := hlow c.toNat hc
    rwa [Char.ofNat_toNat] at h
  · have hs : InLine [c] := by simpa using hc
    simp only [escapedChar, hc, if_false]
    split_ifs
    all_goals first | exact hs | decide

/-- The escapes of a string leave no control character in it. -/
theorem inLine_writeString (s : Text) : InLine (writeString s) := by
  have hs : InLine (s.flatMap escapedChar) := by
    intro d hd
    obtain ⟨c, -, hc⟩ := List.mem_flatMap.1 hd
    exact inLine_escapedChar c d hc
  rw [writeString, List.cons_append, inLine_cons, inLine_append]
  exact ⟨by decide, hs, by decide⟩

mutual

theorem inLine_write : ∀ v : Json, InLine (write v)
  | null => by decide
  | bool true => by decide
  | bool false => by decide
  | whole n => by rw [write]; exact inLine_signedDecimal n
  | float x => by rw [write]; exact x.inLine_display
  | string s => by rw [write]; exact inLine_writeString s
  | array items => by
    rw [write, List.cons_append, inLine_cons, inLine_append]
    exact ⟨by decide, inLine_writeItems items, by decide⟩
  | object members => by
    rw [write, List.cons_append, inLine_cons, inLine_append]
    exact ⟨by decide, inLine_writeMembers members, by decide⟩

private theorem inLine_writeItems : ∀ items : List Json, InLine (writeItems items)
  | [] => inLine_nil
  | [v] => by rw [writeItems]; exact inLine_write v
  | v :: w :: rest => by
    rw [writeItems, inLine_append, inLine_cons]
    exact ⟨inLine_write v, by decide, inLine_writeItems (w :: rest)⟩

private theorem inLine_writeMembers : ∀ members : List (Text × Json), InLine (writeMembers members)
  | [] => inLine_nil
  | [(k, v)] => by
    rw [writeMembers, inLine_append, inLine_cons]
    exact ⟨inLine_writeString k, by decide, inLine_write v⟩
  | (k, v) :: m :: rest => by
    simp only [writeMembers, inLine_append, inLine_cons]
    exact ⟨⟨inLine_writeString k, by decide, inLine_write v⟩, by decide,
      inLine_writeMembers (m :: rest)⟩

end

end Json
end ScriptTrace
