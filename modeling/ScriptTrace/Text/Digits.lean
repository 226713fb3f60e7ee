import ScriptTrace.Text.Basic

/-! Decimal numbers in text.
Line numbers are words of 64 bits, so reading refuses what does not fit. -/
namespace ScriptTrace.Text

def wordLimit : Nat := Nat.pow 2 64

def isDigits (s : Text) : Bool :=
  !s.isEmpty && s.all Char.isDigit

def digitsValue (s : Text) : Nat :=
  Nat.ofDigitChars 10 s 0

def decimal (n : Nat) : Text :=
  Nat.toDigits 10 n

def signedDecimal : Int → Text
  | .ofNat n => decimal n
  | .negSucc n => '-' :: decimal (n + 1)

def bareNumber? (limit : Nat) (s : Text) : Option Nat :=
  if isDigits s && digitsValue s < limit then some (digitsValue s) else none

/-- Digits after at most one plus sign, below `limit`. -/
def unsigned? (limit : Nat) : Text → Option Nat
  | '+' :: digits => bareNumber? limit digits
  | digits => bareNumber? limit digits

/-- Digits after at most one sign, within the signed words of 64 bits. -/
def signed? : Text → Option Int
  | '-' :: digits => (bareNumber? (Nat.pow 2 63 + 1) digits).map fun n => -(n : Int)
  | '+' :: digits => (bareNumber? (Nat.pow 2 63) digits).map Int.ofNat
  | digits => (bareNumber? (Nat.pow 2 63) digits).map Int.ofNat

theorem isDigits_iff {s : Text} :
    isDigits s = true ↔ s ≠ [] ∧ ∀ c ∈ s, c.isDigit = true := by
  rw [isDigits, Bool.and_eq_true, List.all_eq_true, Bool.not_eq_true', List.isEmpty_eq_false_iff]

theorem notMem_of_isDigits {digits : Text} (h : isDigits digits = true) {c : Char}
    (hc : c.isDigit = false) : c ∉ digits :=
  fun hm => absurd ((isDigits_iff.1 h).2 c hm) (by simp [hc])

theorem isDigit_of_mem_decimal {n : Nat} {c : Char} (h : c ∈ decimal n) : c.isDigit = true :=
  Nat.isDigit_of_mem_toDigits (by decide) (by decide) h

theorem isDigits_decimal (n : Nat) : isDigits (decimal n) = true :=
  isDigits_iff.2 ⟨Nat.toDigits_ne_nil, fun _ hc => isDigit_of_mem_decimal hc⟩

theorem digitsValue_decimal (n : Nat) : digitsValue (decimal n) = n :=
  Nat.ofDigitChars_ten_toDigits

/-- A number is less than one that has more digits behind it. -/
theorem lt_digitsValue_decimal_append {n : Nat} {more : Text} (hn : 0 < n) (hm : more ≠ []) :
    n < digitsValue (decimal n ++ more) := by
  have hv : digitsValue (decimal n ++ more) = 10 ^ more.length * n + digitsValue more := by
    rw [digitsValue, Nat.ofDigitChars_append, Nat.ofDigitChars_eq_ofDigitChars_zero, ← digitsValue,
      ← digitsValue, digitsValue_decimal]
  have hp : 1 < 10 ^ more.length :=
    Nat.one_lt_pow (Nat.ne_of_gt (List.length_pos_iff.2 hm)) (by decide)
  calc
    n < 10 ^ more.length * n := (Nat.lt_mul_iff_one_lt_left hn).2 hp
    _ ≤ digitsValue (decimal n ++ more) := hv ▸ Nat.le_add_right _ _

theorem bareNumber?_eq_some_iff {limit n : Nat} {s : Text} :
    bareNumber? limit s = some n ↔ isDigits s = true ∧ digitsValue s = n ∧ n < limit := by
  simp only [bareNumber?, Option.ite_none_right_eq_some, Bool.and_eq_true, decide_eq_true_eq,
    Option.some_inj]
  constructor
  · rintro ⟨⟨hd, hl⟩, rfl⟩
    exact ⟨hd, rfl, hl⟩
  · rintro ⟨hd, rfl, hl⟩
    exact ⟨⟨hd, hl⟩, rfl⟩

theorem bareNumber?_decimal {limit n : Nat} (h : n < limit) :
    bareNumber? limit (decimal n) = some n :=
  bareNumber?_eq_some_iff.2 ⟨isDigits_decimal n, digitsValue_decimal n, h⟩

/-- Digits have no sign in front. -/
theorem unsigned?_of_isDigits {limit : Nat} {s : Text} (h : isDigits s = true) :
    unsigned? limit s = bareNumber? limit s := by
  have hp : '+' ∉ s := notMem_of_isDigits h (by decide)
  rw [unsigned?]
  rintro digits rfl
  exact hp List.mem_cons_self

/-- A number is read back from its digits. -/
theorem unsigned?_decimal {limit n : Nat} (h : n < limit) :
    unsigned? limit (decimal n) = some n := by
  rw [unsigned?_of_isDigits (isDigits_decimal n), bareNumber?_decimal h]

end ScriptTrace.Text
