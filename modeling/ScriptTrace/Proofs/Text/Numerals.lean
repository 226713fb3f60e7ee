import Mathlib.Algebra.Group.Int.Defs
import ScriptTrace.Text.Digits

/-! Words that spell numbers with a sign.
Zeros in front and a plus sign are allowed, and a word of 64 bits has to hold the number. -/
namespace ScriptTrace.Text

/-- A word spells a number with decimal digits behind at most one sign. -/
inductive Numeral : Text → Int → Prop where
  | bare {digits : Text} (h : isDigits digits = true) : Numeral digits (digitsValue digits)
  | plus {digits : Text} (h : isDigits digits = true) : Numeral ('+' :: digits) (digitsValue digits)
  | minus {digits : Text} (h : isDigits digits = true) :
    Numeral ('-' :: digits) (-(digitsValue digits : Int))

section Signs
variable {word digits : Text} {n : Int}

private theorem numeral_minus_iff :
    Numeral ('-' :: digits) n ↔ isDigits digits = true ∧ n = -(digitsValue digits : Int) := by
  constructor
  · intro h
    cases h with
    | bare h => exact absurd List.mem_cons_self (notMem_of_isDigits h (by decide))
    | minus h => exact ⟨h, rfl⟩
  · rintro ⟨h, rfl⟩
    exact .minus h

private theorem numeral_plus_iff :
    Numeral ('+' :: digits) n ↔ isDigits digits = true ∧ n = digitsValue digits := by
  constructor
  · intro h
    cases h with
    | bare h => exact absurd List.mem_cons_self (notMem_of_isDigits h (by decide))
    | plus h => exact ⟨h, rfl⟩
  · rintro ⟨h, rfl⟩
    exact .plus h

private theorem numeral_iff_of_unsigned (hm : ∀ digits, word = '-' :: digits → False)
    (hp : ∀ digits, word = '+' :: digits → False) :
    Numeral word n ↔ isDigits word = true ∧ n = digitsValue word := by
  constructor
  · intro h
    cases h with
    | bare h => exact ⟨h, rfl⟩
    | plus h => exact (hp _ rfl).elim
    | minus h => exact (hm _ rfl).elim
  · rintro ⟨h, rfl⟩
    exact .bare h

end Signs

section Reading
variable {word digits : Text} {n : Int}

private theorem map_bareNumber?_eq_some_iff {limit : Nat} :
    (bareNumber? limit digits).map Int.ofNat = some n ↔
      isDigits digits = true ∧ n = digitsValue digits ∧ n < limit := by
  simp only [Option.map_eq_some_iff, bareNumber?_eq_some_iff]
  constructor
  · rintro ⟨m, ⟨hd, rfl, hl⟩, rfl⟩
    exact ⟨hd, rfl, Int.ofNat_lt.2 hl⟩
  · rintro ⟨hd, rfl, hl⟩
    exact ⟨_, ⟨hd, rfl, Int.ofNat_lt.1 hl⟩, rfl⟩

private theorem map_bareNumber?_eq_some_iff_numeral
    (hs : Numeral word n ↔ isDigits digits = true ∧ n = digitsValue digits) :
    (bareNumber? (Nat.pow 2 63) digits).map Int.ofNat = some n ↔
      Numeral word n ∧ -2 ^ 63 ≤ n ∧ n < 2 ^ 63 := by
  have hl : ((Nat.pow 2 63 : Nat) : Int) = 2 ^ 63 := rfl
  rw [map_bareNumber?_eq_some_iff, hs, hl]
  constructor
  · rintro ⟨hd, rfl, hn⟩
    exact ⟨⟨hd, rfl⟩, by omega, hn⟩
  · rintro ⟨⟨hd, rfl⟩, -, hn⟩
    exact ⟨hd, rfl, hn⟩

private theorem signed?_minus (digits : Text) :
    signed? ('-' :: digits) =
      ((bareNumber? (Nat.pow 2 63 + 1) digits).map Int.ofNat).map Neg.neg := by
  rw [signed?]
  cases bareNumber? (Nat.pow 2 63 + 1) digits <;> rfl

/-- Below zero there is one number more. -/
theorem signed?_minus_eq_some_iff :
    signed? ('-' :: digits) = some n ↔
      Numeral ('-' :: digits) n ∧ -2 ^ 63 ≤ n ∧ n < 2 ^ 63 := by
  have hl : ((Nat.pow 2 63 + 1 : Nat) : Int) = 2 ^ 63 + 1 := rfl
  rw [signed?_minus, Option.map_eq_some_iff, numeral_minus_iff]
  simp only [map_bareNumber?_eq_some_iff, hl]
  constructor
  · rintro ⟨m, ⟨hd, rfl, hm⟩, rfl⟩
    exact ⟨⟨hd, rfl⟩, by omega, by omega⟩
  · rintro ⟨⟨hd, rfl⟩, hm, -⟩
    exact ⟨_, ⟨hd, rfl, by omega⟩, rfl⟩

/-- A number is read from a word that spells it, when it has 64 bits with its sign. -/
theorem signed?_eq_some_iff :
    signed? word = some n ↔ Numeral word n ∧ -2 ^ 63 ≤ n ∧ n < 2 ^ 63 := by
  fun_cases signed? word with
  | case1 digits => exact signed?_minus_eq_some_iff
  | case2 digits => exact map_bareNumber?_eq_some_iff_numeral numeral_plus_iff
  | case3 _ hm hp => exact map_bareNumber?_eq_some_iff_numeral (numeral_iff_of_unsigned hm hp)

example : signed? "-9223372036854775808".toList = some (-2 ^ 63) ∧
    signed? "+9223372036854775808".toList = none := by
  decide +kernel

end Reading

end ScriptTrace.Text
