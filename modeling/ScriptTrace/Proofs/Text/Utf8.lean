import Mathlib.Tactic.IntervalCases
import ScriptTrace.Text.Utf8

/-! Bytes that were written for a text are read as this text.
Each byte after the first of a character brings one digit of its code point in base 64. -/
namespace ScriptTrace.Utf8

section Bytes

private theorem toNat_ofNat {n : Nat} (h : n < 256) : (UInt8.ofNat n).toNat = n := by
  rw [UInt8.toNat_ofNat']
  exact Nat.mod_eq_of_lt h

private theorem lead_two {k : Nat} (hl : 2 ≤ k) (hh : k < 32) :
    lead (UInt8.ofNat (k + 0xC0)) = .opens ⟨1, 0x80, 0xBF, k⟩ := by
  simp only [lead, toNat_ofNat (show k + 0xC0 < 256 by omega)]
  rw [if_neg (by omega), if_neg (by omega), if_pos (by omega), Nat.add_sub_cancel]

private theorem lead_three {k : Nat} (hk : k < 16) :
    lead (UInt8.ofNat (k + 0xE0)) =
      .opens ⟨2, if k = 0 then 0xA0 else 0x80, if k = 13 then 0x9F else 0xBF, k⟩ := by
  interval_cases k <;> decide

private theorem lead_four {k : Nat} (hk : k < 5) :
    lead (UInt8.ofNat (k + 0xF0)) =
      .opens ⟨3, if k = 0 then 0x90 else 0x80, if k = 4 then 0x8F else 0xBF, k⟩ := by
  interval_cases k <;> decide

/-- A byte of one character and no other belongs to that character alone. -/
theorem toNat_of_mem_encodeChar {c : Char} {b : UInt8} (hb : b ∈ String.utf8EncodeChar c)
    (hl : b.toNat < 0x80) : c.toNat = b.toNat := by
  have hf {n : Nat} (h : n < 256) (hn : 0x80 ≤ n) : b ≠ UInt8.ofNat n := by
    rintro rfl
    rw [toNat_ofNat h] at hl
    omega
  unfold String.utf8EncodeChar at hb
  dsimp only at hb
  split_ifs at hb
  · rw [List.mem_singleton.1 hb, toNat_ofNat (by omega), Char.toNat]
  all_goals simp only [List.mem_cons, List.not_mem_nil, or_false] at hb
  · rcases hb with hb | hb <;> exact absurd hb (hf (by omega) (by omega))
  · rcases hb with hb | hb | hb <;> exact absurd hb (hf (by omega) (by omega))
  · rcases hb with hb | hb | hb | hb <;> exact absurd hb (hf (by omega) (by omega))

end Bytes

section Scan
variable (rest : Bytes)

private theorem scan_opens {b : UInt8} {p : Pending} (h : lead b = .opens p) :
    scan none (b :: rest) = scan (some p) rest := by
  rw [scan, h]

private theorem scan_digit {owed low high bits k : Nat} (hk : k < 64) (hl : low ≤ k + 0x80)
    (hh : k + 0x80 ≤ high) :
    scan (some ⟨owed, low, high, bits⟩) (UInt8.ofNat (k + 0x80) :: rest) =
      if owed ≤ 1 then some (Char.ofNat (bits * 64 + k)) :: scan none rest
      else scan (some ⟨owed - 1, 0x80, 0xBF, bits * 64 + k⟩) rest := by
  have hn : (UInt8.ofNat (k + 0x80)).toNat = k + 0x80 := toNat_ofNat (by omega)
  have hm : (k + 0x80) % 64 = k := by omega
  simp only [scan, hn, hm, hl, hh, and_self, if_true]

private theorem scan_more {owed low high bits k : Nat} (ho : 1 < owed) (hk : k < 64)
    (hl : low ≤ k + 0x80) (hh : k + 0x80 ≤ high) :
    scan (some ⟨owed, low, high, bits⟩) (UInt8.ofNat (k + 0x80) :: rest) =
      scan (some ⟨owed - 1, 0x80, 0xBF, bits * 64 + k⟩) rest := by
  rw [scan_digit rest hk hl hh, if_neg (Nat.not_le.2 ho)]

private theorem scan_last {bits k : Nat} (hk : k < 64) :
    scan (some ⟨1, 0x80, 0xBF, bits⟩) (UInt8.ofNat (k + 0x80) :: rest) =
      some (Char.ofNat (bits * 64 + k)) :: scan none rest := by
  rw [scan_digit rest hk (by omega) (by omega), if_pos (Nat.le_refl 1)]

private theorem scan_encodeChar (c : Char) :
    scan none (String.utf8EncodeChar c ++ rest) = some c :: scan none rest := by
  have hv : c.val.toNat < 0xD800 ∨ 0xDFFF < c.val.toNat ∧ c.val.toNat < 0x110000 := c.valid
  have hc : Char.ofNat c.val.toNat = c := Char.ofNat_toNat c
  unfold String.utf8EncodeChar
  generalize c.val.toNat = n at *
  dsimp only
  split
  · have hw : lead (UInt8.ofNat n) = .whole c := by
      simp only [lead, toNat_ofNat (show n < 256 by omega), if_pos (Nat.lt_succ_of_le ‹n ≤ 0x7F›), hc]
    rw [List.singleton_append, scan, hw]
  · split
    · have he : n / 64 % 32 * 64 + n % 64 = n := by omega
      simp only [List.cons_append, List.nil_append]
      rw [scan_opens _ (lead_two (by omega) (by omega)), scan_last _ (by omega), he, hc]
    · split
      · have he : (n / 4096 % 16 * 64 + n / 64 % 64) * 64 + n % 64 = n := by omega
        simp only [List.cons_append, List.nil_append]
        rw [scan_opens _ (lead_three (by omega)),
          scan_more _ (by omega) (by omega) (by split <;> omega) (by split <;> omega),
          scan_last _ (by omega), he, hc]
      · have he : ((n / 262144 % 8 * 64 + n / 4096 % 64) * 64 + n / 64 % 64) * 64 + n % 64 = n := by
          omega
        simp only [List.cons_append, List.nil_append]
        rw [scan_opens _ (lead_four (by omega)),
          scan_more _ (by omega) (by omega) (by split <;> omega) (by split <;> omega),
          scan_more _ (by omega) (by omega) (by omega) (by omega),
          scan_last _ (by omega), he, hc]

end Scan

/-- The bytes of a text have no ill-formed part. -/
theorem scan_encode (s : Text) : scan none (encode s) = s.map some := by
  induction s with
  | nil => rfl
  | cons c s ih => rw [encode, List.flatMap_cons, scan_encodeChar, ← encode, ih, List.map_cons]

theorem decodeLossy_encode (s : Text) : decodeLossy (encode s) = s := by
  simp [decodeLossy, scan_encode]

theorem decode?_encode (s : Text) : decode? (encode s) = some s := by
  rw [decode?, scan_encode]
  induction s with
  | nil => rfl
  | cons c s ih => rw [List.map_cons, List.mapM_cons, ih]; rfl

end ScriptTrace.Utf8
