import ScriptTrace.Text.Basic

/-! UTF-8: writing a text as bytes, and reading bytes as characters and ill-formed parts.
A part is ill-formed when no character begins as it does, or when it stops short of one. -/
namespace ScriptTrace.Utf8

abbrev Bytes := List UInt8

def encode (s : Text) : Bytes :=
  s.flatMap String.utf8EncodeChar

/-- A character of which some bytes are still to come: how many, the bounds of the next one,
and the value of the bits read so far. -/
structure Pending where
  /-- Bytes still to come, at least one. -/
  owed : Nat
  low : Nat
  high : Nat
  bits : Nat
  deriving DecidableEq, Repr

/-- What the first byte of a part says. -/
inductive Lead where
  | whole (c : Char)
  /-- The beginning of a longer character. -/
  | opens (p : Pending)
  | illFormed
  deriving DecidableEq, Repr

def lead (b : UInt8) : Lead :=
  let n := b.toNat
  -- the bounds of a second byte exclude overlong forms, surrogates and values past the last character
  if n < 0x80 then .whole (Char.ofNat n)
  else if n < 0xC2 then .illFormed
  else if n < 0xE0 then .opens ⟨1, 0x80, 0xBF, n - 0xC0⟩
  else if n < 0xF0 then
    .opens ⟨2, if n = 0xE0 then 0xA0 else 0x80, if n = 0xED then 0x9F else 0xBF, n - 0xE0⟩
  else if n < 0xF5 then
    .opens ⟨3, if n = 0xF0 then 0x90 else 0x80, if n = 0xF4 then 0x8F else 0xBF, n - 0xF0⟩
  else .illFormed

/-- The characters of the bytes, with `none` for each longest ill-formed part. The first argument
is the character that has been begun. -/
def scan : Option Pending → Bytes → List (Option Char)
  | none, [] => []
  | some _, [] => [none]
  | none, b :: rest =>
    match lead b with
    | .whole c => some c :: scan none rest
    | .opens p => scan (some p) rest
    | .illFormed => none :: scan none rest
  | some p, b :: rest =>
    let n := b.toNat
    if p.low ≤ n ∧ n ≤ p.high then
      let bits := p.bits * 64 + n % 64
      if p.owed ≤ 1 then some (Char.ofNat bits) :: scan none rest
      else scan (some ⟨p.owed - 1, 0x80, 0xBF, bits⟩) rest
    else
      -- the byte that breaks the character off begins the next part
      none ::
        match lead b with
        | .whole c => some c :: scan none rest
        | .opens q => scan (some q) rest
        | .illFormed => none :: scan none rest

/-- The text that the bytes write, if every part of them is well-formed. -/
def decode? (bytes : Bytes) : Option Text :=
  (scan none bytes).mapM id

/-- The text of the bytes with a replacement character for each ill-formed part. -/
def decodeLossy (bytes : Bytes) : Text :=
  (scan none bytes).map (·.getD (Char.ofNat 0xFFFD))

end ScriptTrace.Utf8
