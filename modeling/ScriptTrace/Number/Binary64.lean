import ScriptTrace.Text.Digits

/-! Finite binary floating-point numbers of 64 bits, in exact arithmetic.
Every magnitude is a whole number of the least positive one, so rounding is division of naturals. -/
namespace ScriptTrace

/-- A finite number: its sign, and its magnitude in units of two to the power of -1074. -/
structure Binary64 where
  /-- The number has a minus sign, which zero may have as well. -/
  negative : Bool
  /-- How many units the magnitude has. -/
  units : Nat
  deriving DecidableEq, Repr

namespace Binary64
open Text

def one : Nat := Nat.pow 2 1074

def limit : Nat := Nat.pow 2 2098

/-- The distance from a magnitude to the next larger one. -/
def gap (units : Nat) : Nat :=
  Nat.pow 2 (Nat.log2 units - 52)

/-- The quotient to the nearest whole number, and to the even one of two that are as near. -/
def roundDiv (num den : Nat) : Nat :=
  let q := num / den
  let twice := 2 * (num % den)
  if twice < den then q
  else if den < twice then q + 1
  else q + q % 2

def nearest (num den : Nat) : Nat :=
  let step := gap (num / den)
  roundDiv num (den * step) * step

def ofNat (n : Nat) : Nat :=
  nearest (n * one) 1

def mul (a b : Nat) : Nat :=
  nearest (a * b) one

def div (a b : Nat) : Nat :=
  nearest (a * one) b

def tenLimit : Nat := 308

def ten (exponent : Nat) : Nat :=
  ofNat (Nat.pow 10 exponent)

/-- Divides a magnitude by a power of ten, in steps where the power is too large. -/
def divTens (units exponent : Nat) : Nat :=
  if exponent ≤ tenLimit then div units (ten exponent)
  else if units = 0 then 0
  else divTens (div units (ten tenLimit)) (exponent - tenLimit)
termination_by exponent
decreasing_by
  have : tenLimit = 308 := rfl
  omega

/-- The magnitude of a significand times a power of ten, none if it is too large. -/
def ofScientific? (significand : Nat) (exponent : Int) : Option Nat :=
  -- the significand is rounded first, and the product once more
  let units := ofNat significand
  match exponent with
  | .ofNat e =>
    if e ≤ tenLimit then
      let product := mul units (ten e)
      if product < limit then some product else none
    else if units = 0 then some 0
    else none
  | .negSucc e => some (divTens units (e + 1))

def leadExponent (units : Nat) : Int :=
  if one ≤ units then ((decimal (units / one)).length : Int) - 1
  else Int.negOfNat (((List.range 400).find? fun k => one ≤ units * Nat.pow 10 k).getD 0)

def scaled (units : Nat) (exponent : Int) : Nat × Nat :=
  match exponent with
  | .ofNat e => (units, one * Nat.pow 10 e)
  | .negSucc e => (units * Nat.pow 10 (e + 1), one)

/-- The decimal `digits` times a power of ten reads back as the magnitude: twice their distance is
less than the gap on that side, or no more than it where a tie goes to this magnitude. -/
def readsBack (units : Nat) (digits : Nat) (exponent : Int) : Bool :=
  let (num, den) := scaled units exponent
  let even := units / gap units % 2 == 0
  if num ≤ digits * den then
    let (room, base) := scaled (gap units) exponent
    let twice := 2 * (digits * den - num) * base
    twice < room * den || (even && twice == room * den)
  else
    -- below a power of two the numbers are closer
    let (room, base) := scaled (gap (units - 1)) exponent
    let twice := 2 * (num - digits * den) * base
    twice < room * den || (even && twice == room * den)

/-- The decimal of `count` digits that reads back as the magnitude: the nearer one of its two
neighbours, and the even one of two that are as near. -/
def withDigits? (units count : Nat) : Option (Nat × Int) :=
  let exponent := leadExponent units + 1 - count
  let (num, den) := scaled units exponent
  let lower := num / den
  let upper := lower + 1
  let back (digits : Nat) := readsBack units digits exponent
  if back lower && (!back upper || roundDiv num den == lower) then some (lower, exponent)
  else if back upper then some (upper, exponent)
  else none

def dropZeros : Nat → Nat × Int → Nat × Int
  | 0, x => x
  | count + 1, (digits, exponent) =>
    if digits % 10 = 0 then dropZeros count (digits / 10, exponent + 1) else (digits, exponent)

/-- The fewest digits that read back as the magnitude, and the power of ten of the last one. -/
def shortest (units : Nat) : Nat × Int :=
  if units = 0 then (0, 0)
  else dropZeros 17 (((List.range 17).findSome? fun k => withDigits? units (k + 1)).getD (0, 0))

def isPositional (lead : Int) : Bool := -5 ≤ lead && lead ≤ 15

/-- Digits in positional notation, always with a point. The last one has this power of ten. -/
def positional (ds : Text) : Int → Text
  | .ofNat e => ds ++ List.replicate e '0' ++ ".0".toList
  | .negSucc e =>
    let ds := List.replicate (e + 2 - ds.length) '0' ++ ds
    ds.take (ds.length - (e + 1)) ++ ['.'] ++ ds.drop (ds.length - (e + 1))

/-- Digits in scientific notation, with a sign before the exponent. A single digit has no point. -/
def scientific (ds : Text) (lead : Int) : Text :=
  let places := ds.drop 1
  ds.take 1 ++ (if places = [] then [] else '.' :: places) ++
    ['e', if lead < 0 then '-' else '+'] ++ decimal lead.natAbs

def display (x : Binary64) : Text :=
  let (digits, exponent) := shortest x.units
  let ds := decimal digits
  let lead := exponent + ds.length - 1
  let body := if isPositional lead then positional ds exponent else scientific ds lead
  if x.negative then '-' :: body else body

end Binary64
end ScriptTrace
