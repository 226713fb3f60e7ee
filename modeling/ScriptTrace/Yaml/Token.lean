import ScriptTrace.Text.Utf8
import ScriptTrace.Yaml.Node
import ScriptTrace.Yaml.Place

/-! The tokens of a YAML text, and the reading of names, tags and directives.
Indentation has become tokens of its own, which open and close blocks as brackets do. -/
namespace ScriptTrace.Yaml

inductive Token where
  | version (major minor : Nat)
  /-- What a tag handle is short for. -/
  | handle (name full : Text)
  | documentStart
  | documentEnd
  | blockSequence
  | blockMapping
  | blockEnd
  | item
  | openBracket
  | closeBracket
  | openBrace
  | closeBrace
  | comma
  | key
  | value
  /-- The value at an anchor. -/
  | reference (name : Text)
  /-- The value that follows has an anchor. -/
  | anchor (name : Text)
  /-- The value that follows has a tag. -/
  | tag (handle suffix : Text)
  | scalar (s : Text) (style : Style)
  deriving DecidableEq, Repr

namespace Token

def endsName (next : Option Char) : Bool :=
  isEdge next || next.any fun c => "?:,]\x7d%@`".toList.contains c

def name? (p : Place) : Option (Text × Place) :=
  let name := (p.rest.drop 1).takeWhile isWord
  let p := p.pass (name.length + 1)
  if name ≠ [] && endsName p.peek then some (name, p) else none

/-- The handle of a tag with its exclamation marks, and the place behind it. -/
def handleName? (p : Place) : Option (Text × Place) :=
  match p.rest with
  | '!' :: rest =>
    let word := rest.takeWhile isWord
    let p := p.pass (word.length + 1)
    if p.peek = some '!' then some ('!' :: word ++ ['!'], p.pass 1) else some ('!' :: word, p)
  | _ => none

/-- A character of addresses. Some of them stand only between angle brackets. -/
def isAddress (verbatim : Bool) (c : Char) : Bool :=
  isWord c || ";/?:@&=+$.%!~*'()".toList.contains c || (verbatim && ",[]".toList.contains c)

/-- How many bytes a character has that begins with this one, which is zero where none does. -/
def escapedCount (first : Nat) : Nat :=
  if first < 0x80 then 1
  else if first / 0x20 = 0x06 then 2
  else if first / 0x10 = 0x0E then 3
  else if first / 0x08 = 0x1E then 4
  else 0

def escapedByte? : Text → Option Nat
  | '%' :: a :: b :: _ => hexValue? [a, b]
  | _ => none

/-- This many further bytes of a character. -/
def escapedTail? : Nat → Text → Option Utf8.Bytes
  | 0, _ => some []
  | count + 1, s =>
    match escapedByte? s with
    | some n =>
      if n / 0x40 = 0x02 then (escapedTail? count (s.drop 3)).map (UInt8.ofNat n :: ·) else none
    | none => none

def escapedChar? (s : Text) : Option (Char × Nat) :=
  match escapedByte? s with
  | none => none
  | some n =>
    let count := escapedCount n
    if count = 0 then none
    else
      (escapedTail? (count - 1) (s.drop 3)).map fun tail =>
        match Utf8.decode? (UInt8.ofNat n :: tail) with
        | some [c] => (c, count)
        -- the bytes only look like a character
        | _ => (Char.ofNat 0xFFFD, count)

/-- The address that comes next behind what has been read of it, and the place behind it. The fuel
bounds the characters. -/
def address (verbatim : Bool) : Nat → Text → Place → Option (Text × Place)
  | 0, s, p => some (s, p)
  | fuel + 1, s, p =>
    match p.peek with
    | none => some (s, p)
    | some c =>
      if c = '%' then
        match escapedChar? p.rest with
        | none => none
        | some (d, count) => address verbatim fuel (s ++ [d]) (p.pass (3 * count))
      else if isAddress verbatim c then address verbatim fuel (s ++ [c]) (p.pass 1)
      else some (s, p)

def untilNull (s : Text) : Text := s.takeWhile (· ≠ '\x00')

def tag? (flow : Bool) (p : Place) : Option (Token × Place) := do
  let (token, p) ←
    if (p.rest.drop 1).head? = some '<' then do
      let (s, q) ← address true p.rest.length [] (p.pass 2)
      if s ≠ [] && q.peek = some '>' then some (tag [] (untilNull s), q.pass 1) else none
    else do
      let (short, q) ← handleName? p
      if 1 < short.length && short.getLast? = some '!' then do
        let (s, q) ← address false p.rest.length [] q
        if s ≠ [] then some (tag short (untilNull s), q) else none
      else do
        let (s, q) ← address false p.rest.length (short.drop 1) q
        let s := untilNull s
        some (if s = [] then tag [] ['!'] else tag ['!'] s, q)
  if isEdge p.peek || (flow && p.peek = some ',') then some (token, p) else none

def versionNumber? (p : Place) : Option (Nat × Place) :=
  let digits := p.rest.takeWhile Char.isDigit
  if digits ≠ [] && digits.length ≤ 9 then
    some (Nat.ofDigitChars 10 digits 0, p.pass digits.length)
  else none

def directive? (p : Place) : Option (Token × Place) := do
  let name := (p.rest.drop 1).takeWhile isWord
  let p := p.pass (name.length + 1)
  if !isEdge p.peek then none
  else
    let (token, p) ←
      if name = "YAML".toList then do
        let (major, q) ← versionNumber? (p.passWhile isGap)
        if q.peek = some '.' then do
          let (minor, q) ← versionNumber? (q.pass 1)
          some (version major minor, q)
        else none
      else if name = "TAG".toList then do
        let (short, q) ← handleName? (p.passWhile isGap)
        if (short = ['!'] || short.getLast? = some '!') && q.peek.any isGap then do
          let (full, q) ← address true p.rest.length [] (q.passWhile isGap)
          if full ≠ [] && isEdge q.peek then some (handle short (untilNull full), q) else none
        else none
      else none
    let p := p.passWhile isGap
    let p := if p.peek = some '#' then p.passWhile fun c => !isBreak c else p
    if p.atBreak then some (token, p.passBreak)
    else if p.rest = [] then some (token, p)
    else none

end Token
end ScriptTrace.Yaml
