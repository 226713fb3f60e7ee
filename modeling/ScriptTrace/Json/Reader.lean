import ScriptTrace.Json.Basic

/-! The reading of JSON text.
The grammar is strict. Every reading step gives what it read and the text behind it. -/
namespace ScriptTrace.Json
open Text

def isSpace (c : Char) : Bool :=
  c = ' ' || c = '\t' || c = '\n' || c = '\r'

def skipSpace (s : Text) : Text :=
  s.dropWhile isSpace

def hexDigit? (c : Char) : Option Nat :=
  if c.isDigit then some (c.toNat - '0'.toNat)
  else if 'a' ≤ c ∧ c ≤ 'f' then some (c.toNat - 'a'.toNat + 10)
  else if 'A' ≤ c ∧ c ≤ 'F' then some (c.toNat - 'A'.toNat + 10)
  else none

def readUnit : Text → Option (Nat × Text)
  | a :: b :: c :: d :: rest => do
    let a ← hexDigit? a
    let b ← hexDigit? b
    let c ← hexDigit? c
    let d ← hexDigit? d
    some (((a * 16 + b) * 16 + c) * 16 + d, rest)
  | _ => none

def shortEscape? : Char → Option Char
  | '"' => some '"'
  | '\\' => some '\\'
  | '/' => some '/'
  | 'b' => some '\x08'
  | 'f' => some '\x0c'
  | 'n' => some '\n'
  | 'r' => some '\r'
  | 't' => some '\t'
  | _ => none

def readEscape : Text → Option (Char × Text)
  | 'u' :: rest => do
    let (high, rest) ← readUnit rest
    if high < 0xD800 ∨ 0xDFFF < high then some (Char.ofNat high, rest)
    else if 0xDC00 ≤ high then none
    else
      -- a high surrogate stands for nothing without its low one
      match rest with
      | '\\' :: 'u' :: rest => do
        let (low, rest) ← readUnit rest
        if 0xDC00 ≤ low ∧ low ≤ 0xDFFF then
          some (Char.ofNat (0x10000 + (high - 0xD800) * 0x400 + (low - 0xDC00)), rest)
        else none
      | _ => none
  | c :: rest => (shortEscape? c).map fun c => (c, rest)
  | [] => none

def readChars : Nat → Text → Option (Text × Text)
  | 0, _ => none
  | _ + 1, [] => none
  | _ + 1, '"' :: rest => some ([], rest)
  | fuel + 1, '\\' :: rest => do
    let (c, rest) ← readEscape rest
    let (cs, rest) ← readChars fuel rest
    some (c :: cs, rest)
  | fuel + 1, c :: rest =>
    if c.toNat < 0x20 then none
    else do
      let (cs, rest) ← readChars fuel rest
      some (c :: cs, rest)

def readDigits (s : Text) : Text × Text :=
  (s.takeWhile Char.isDigit, s.dropWhile Char.isDigit)

/-- A significand that is a word, and the power of ten that it is to be multiplied by. -/
structure Scaled where
  significand : Nat
  exponent : Int

/-- Takes in the digits of the whole part up to the first that makes the significand too large. -/
def takeWhole (digits : Text) : Scaled × Bool :=
  digits.foldl
    (fun (x, full) c =>
      let next := x.significand * 10 + (c.toNat - '0'.toNat)
      -- from the first digit that does not fit, each only raises the power of ten
      if full || wordLimit ≤ next then (⟨x.significand, x.exponent + 1⟩, true)
      else (⟨next, x.exponent⟩, false))
    (⟨0, 0⟩, false)

/-- Takes in the digits behind the point up to the first that makes the significand too large, and
drops the others. -/
def takePlaces (x : Scaled) (digits : Text) : Scaled :=
  (digits.foldl
    (fun (x, full) c =>
      let next := x.significand * 10 + (c.toNat - '0'.toNat)
      if full || wordLimit ≤ next then (x, true)
      else (⟨next, x.exponent - 1⟩, false))
    (x, false)).1

/-- One more than the greatest exponent that is taken as written. -/
def exponentLimit : Nat := Nat.pow 2 31

def toFloat (negative : Bool) (x : Scaled) (written : Option (Bool × Nat)) : Option Json :=
  let units := match written with
    | none => Binary64.ofScientific? x.significand x.exponent
    | some (down, e) =>
      if exponentLimit ≤ e then if x.significand = 0 ∨ down then some 0 else none
      else Binary64.ofScientific? x.significand (if down then x.exponent - e else x.exponent + e)
  units.map fun units => float ⟨negative, units⟩

/-- The exponent of a number, if one is written: whether it is negative, and its size. -/
def readExponent (s : Text) : Option (Option (Bool × Nat) × Text) :=
  let signed (down : Bool) (s : Text) : Option (Option (Bool × Nat) × Text) :=
    let (digits, rest) := readDigits s
    if digits = [] then none else some (some (down, digitsValue digits), rest)
  match s with
  | 'e' :: '+' :: rest => signed false rest
  | 'e' :: '-' :: rest => signed true rest
  | 'e' :: rest => signed false rest
  | 'E' :: '+' :: rest => signed false rest
  | 'E' :: '-' :: rest => signed true rest
  | 'E' :: rest => signed false rest
  | _ => some (none, s)

def ofWhole (negative : Bool) (digits : Text) : Option Json :=
  let n := digitsValue digits
  if !negative && n < wordLimit then some (whole n)
  else if negative && 0 < n && n ≤ Nat.pow 2 63 then some (whole (-(n : Int)))
  -- what is no word becomes a floating-point number, and so does zero with a minus sign
  else toFloat negative (takeWhole digits).1 none

def readUnsigned (negative : Bool) (s : Text) : Option (Json × Text) :=
  let (digits, rest) := readDigits s
  if digits = [] ∨ (digits.head? = some '0' ∧ 1 < digits.length) then none
  else
    match rest with
    | '.' :: rest => do
      let (places, rest) := readDigits rest
      if places = [] then none
      else
        let (written, rest) ← readExponent rest
        let value ← toFloat negative (takePlaces (takeWhole digits).1 places) written
        some (value, rest)
    | _ => do
      let (written, rest) ← readExponent rest
      let value ← match written with
        | none => ofWhole negative digits
        | some _ => toFloat negative (takeWhole digits).1 written
      some (value, rest)

def readNumber : Text → Option (Json × Text)
  | '-' :: rest => readUnsigned true rest
  | s => readUnsigned false s

def depthLimit : Nat := 127

def readKey (s : Text) : Option (Text × Text) :=
  match s with
  | '"' :: rest => readChars (rest.length + 1) rest
  | _ => none

mutual

/-- A value that begins without white space. The fuel bounds the steps, and `room` the depth. -/
def readValue : Nat → Nat → Text → Option (Json × Text)
  | 0, _, _ => none
  | fuel + 1, room, s =>
    match s with
    | 'n' :: 'u' :: 'l' :: 'l' :: rest => some (null, rest)
    | 't' :: 'r' :: 'u' :: 'e' :: rest => some (bool true, rest)
    | 'f' :: 'a' :: 'l' :: 's' :: 'e' :: rest => some (bool false, rest)
    | '"' :: rest => (readChars (rest.length + 1) rest).map fun (s, rest) => (string s, rest)
    | '[' :: rest =>
      if room = 0 then none
      else
        match skipSpace rest with
        | ']' :: rest => some (array [], rest)
        | rest => (readItems fuel (room - 1) rest).map fun (vs, rest) => (array vs, rest)
    | '\x7b' :: rest =>
      if room = 0 then none
      else
        match skipSpace rest with
        | '\x7d' :: rest => some (object [], rest)
        | rest => (readMembers fuel (room - 1) rest).map fun (ms, rest) => (sorted ms, rest)
    | s => readNumber s

def readItems : Nat → Nat → Text → Option (List Json × Text)
  | 0, _, _ => none
  | fuel + 1, room, s => do
    let (v, rest) ← readValue fuel room s
    match skipSpace rest with
    | ',' :: rest => do
      let (vs, rest) ← readItems fuel room (skipSpace rest)
      some (v :: vs, rest)
    | ']' :: rest => some ([v], rest)
    | _ => none

def readMembers : Nat → Nat → Text → Option (List (Text × Json) × Text)
  | 0, _, _ => none
  | fuel + 1, room, s => do
    let (k, rest) ← readKey s
    match skipSpace rest with
    | ':' :: rest => do
      let (v, rest) ← readValue fuel room (skipSpace rest)
      match skipSpace rest with
      | ',' :: rest => do
        let (ms, rest) ← readMembers fuel room (skipSpace rest)
        some ((k, v) :: ms, rest)
      | '\x7d' :: rest => some ([(k, v)], rest)
      | _ => none
    | _ => none

end

def read? (s : Text) : Option Json := do
  let s := skipSpace s
  let (v, rest) ← readValue (2 * s.length + 1) depthLimit s
  if (skipSpace rest).isEmpty then some v else none

end ScriptTrace.Json
