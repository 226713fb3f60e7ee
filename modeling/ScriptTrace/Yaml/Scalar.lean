import ScriptTrace.Yaml.Node
import ScriptTrace.Yaml.Place

/-! The reading of YAML scalars.
Line breaks inside a scalar are folded: one reads as a space, and of several the first is dropped. -/
namespace ScriptTrace.Yaml

/-- White space inside a scalar. -/
structure Space where
  /-- Gaps before any line break. -/
  gaps : Text
  first : Text
  more : Text
  /-- There is a line break, perhaps one that does not count. -/
  broken : Bool
  deriving DecidableEq, Repr

namespace Space

def empty : Space := ⟨[], [], [], false⟩

/-- A line break that does not count. -/
def escaped : Space := ⟨[], [], [], true⟩

def value (s : Space) : Text :=
  if !s.broken then s.gaps
  else if s.first = ['\n'] then (if s.more = [] then [' '] else s.more)
  else s.first ++ s.more

def read (least : Nat) : Nat → Space → Place → Option (Space × Place)
  | 0, s, p => some (s, p)
  | fuel + 1, s, p =>
    match p.peek with
    | none => some (s, p)
    | some c =>
      if isGap c then
        if !s.broken then read least fuel { s with gaps := s.gaps ++ [c] } (p.pass 1)
        -- no tab may indent the next line
        else if c = '\t' && p.column < least then none
        else read least fuel s (p.pass 1)
      else if isBreak c then
        let s := if s.broken then { s with more := s.more ++ p.breakText }
          else ⟨[], p.breakText, s.more, true⟩
        read least fuel s p.passBreak
      else some (s, p)

end Space

def plainWord? (flow : Bool) : Text → Option Text
  | [] => some []
  | c :: rest =>
    if isSpace c then some []
    -- inside brackets no colon may stand before another mark
    else if flow && c = ':' && rest.head?.any (fun d => d = '?' || isFlowMark d) then none
    else if (c = ':' && isEdge rest.head?) || (flow && isFlowMark c) then some []
    else (plainWord? flow rest).map (c :: ·)

/-- The rest of a plain scalar behind some parts, the latest first: all parts, the place behind it,
and whether it ended on a later line than its last word. The fuel bounds the characters. -/
def plainRest (flow : Bool) (least : Nat) :
    Nat → List Text → Space → Place → Option (List Text × Bool × Place)
  | 0, _, _, _ => none
  | fuel + 1, parts, space, p =>
    if p.atDocumentMark || p.peek = some '#' then some (parts, space.broken, p)
    else
      match plainWord? flow p.rest with
      | none => none
      | some word =>
        let parts := if word = [] then parts else word :: space.value :: parts
        let space := if word = [] then space else .empty
        let p := p.pass word.length
        if !p.peek.any isSpace then some (parts, space.broken, p)
        else
          match space.read least fuel p with
          | none => none
          | some (space, p) =>
            -- outside brackets a line that is not indented enough ends the scalar
            if !flow && p.column < least then some (parts, space.broken, p)
            else plainRest flow least fuel parts space p

/-- A plain scalar, the place behind it, and whether it ended on a later line than its last word. -/
def plain? (flow : Bool) (least : Nat) (p : Place) : Option (Text × Bool × Place) :=
  (plainRest flow least (p.rest.length + 1) [] .empty p).map fun (parts, broken, p) =>
    (parts.reverse.flatten, broken, p)

def shortEscape? : Char → Option Char
  | '0' => some '\x00'
  | 'a' => some '\x07'
  | 'b' => some '\x08'
  | 't' => some '\t'
  | '\t' => some '\t'
  | 'n' => some '\n'
  | 'v' => some '\x0b'
  | 'f' => some '\x0c'
  | 'r' => some '\r'
  | 'e' => some '\x1b'
  | ' ' => some ' '
  | '"' => some '"'
  | '/' => some '/'
  | '\\' => some '\\'
  | 'N' => some (Char.ofNat 0x85)
  | '_' => some (Char.ofNat 0xA0)
  | 'L' => some (Char.ofNat 0x2028)
  | 'P' => some (Char.ofNat 0x2029)
  | _ => none

def escapeDigits? : Char → Option Nat
  | 'x' => some 2
  | 'u' => some 4
  | 'U' => some 8
  | _ => none

def escape? : Text → Option (Char × Nat)
  | [] => none
  | c :: rest =>
    match shortEscape? c, escapeDigits? c with
    | some d, _ => some (d, 2)
    | none, some count =>
      match hexValue? (rest.take count) with
      | none => none
      | some n =>
        if (rest.take count).length = count ∧ n.isValidChar then some (Char.ofNat n, count + 2)
        else none
    | none, none => none

/-- A word inside quotes behind some characters of it, the latest first, up to white space or the
closing quote: all characters, and whether a line break that does not count ended it. The fuel
bounds the characters. -/
def quotedWord (quote : Char) : Nat → Text → Place → Option (Text × Bool × Place)
  | 0, s, p => some (s, false, p)
  | fuel + 1, s, p =>
    match p.rest with
    | [] => some (s, false, p)
    | c :: rest =>
      if isSpace c then some (s, false, p)
      -- single quotes know no escapes, only the quote that is written twice
      else if c = '\'' && quote = '\'' && rest.head? = some '\'' then
        quotedWord quote fuel (c :: s) (p.pass 2)
      else if c = quote then some (s, false, p)
      else if c = '\\' && quote = '"' then
        if rest.head?.any isBreak then some (s, true, (p.pass 1).passBreak)
        else
          match escape? rest with
          | none => none
          | some (d, count) => quotedWord quote fuel (d :: s) (p.pass count)
      else quotedWord quote fuel (c :: s) (p.pass 1)

/-- The rest of a scalar in quotes behind some characters of it, the latest first: all characters,
and the place behind its closing quote. The fuel bounds the characters. -/
def quotedRest (quote : Char) : Nat → Text → Place → Option (Text × Place)
  | 0, _, _ => none
  | fuel + 1, s, p =>
    -- the mark of a document counts even between quotes
    if p.atDocumentMark || p.rest = [] then none
    else
      match quotedWord quote (fuel + 1) s p with
      | none => none
      | some (s, escaped, p) =>
        if p.peek = some quote then some (s, p.pass 1)
        else
          match (if escaped then Space.escaped else .empty).read 0 (fuel + 1) p with
          | none => none
          | some (space, p) => quotedRest quote fuel (space.value.reverse ++ s) p

def quoted? (quote : Char) (p : Place) : Option (Text × Place) :=
  (quotedRest quote (p.rest.length + 1) [] (p.pass 1)).map fun (s, p) => (s.reverse, p)

/-- What becomes of the line breaks at the end of a block. -/
inductive Chomping where
  | strip
  | clip
  | keep
  deriving DecidableEq, Repr

def chomping? : Option Char → Option Chomping
  | some '+' => some .keep
  | some '-' => some .strip
  | _ => none

/-- How far the mark of a block says that it is indented, which is zero where the character is no
such mark. -/
def increment? : Option Char → Option Nat
  | some c => if c = '0' then none else if c.isDigit then some (c.toNat - '0'.toNat) else some 0
  | none => some 0

/-- What the marks behind the sign of a block say, in either order, and how many they are. -/
def blockMarks? (s : Text) : Option (Chomping × Nat × Nat) :=
  match chomping? s[0]? with
  | some chomping => (increment? s[1]?).map fun n => (chomping, n, if n = 0 then 1 else 2)
  | none =>
    (increment? s[0]?).map fun n =>
      if n = 0 then (.clip, 0, 0)
      else
        match chomping? s[1]? with
        | some chomping => (chomping, n, 2)
        | none => (.clip, n, 1)

/-- Reads empty lines of a block and the indentation behind them, up to the column `indent`, or all
of it where that is zero. Also gives the greatest column that was reached. The fuel bounds the
lines. -/
def blockBreaks (indent : Nat) : Nat → Nat → Text → Place → Option (Nat × Text × Place)
  | 0, deepest, breaks, p => some (deepest, breaks, p)
  | fuel + 1, deepest, breaks, p =>
    let spaces := (p.rest.takeWhile (· = ' ')).length
    let p := p.pass (if indent = 0 then spaces else min spaces (indent - p.column))
    let deepest := max deepest p.column
    if (indent = 0 || p.column < indent) && p.peek = some '\t' then none
    else if p.atBreak then blockBreaks indent fuel deepest (breaks ++ p.breakText) p.passBreak
    else some (deepest, breaks, p)

/-- The lines of a block behind some parts, the latest first: all parts, the last line break, the
empty lines behind it, and the place behind them. The fuel bounds the characters. -/
def blockLines (literal : Bool) (indent : Nat) :
    Nat → List Text → Bool → Text → Text → Place → Option (List Text × Text × Text × Place)
  | 0, _, _, _, _, _ => none
  | fuel + 1, parts, gapBefore, first, more, p =>
    if p.column ≠ indent || p.rest = [] then some (parts, first, more, p)
    else
      let gap := p.peek.any isGap
      -- line breaks around a line that is indented further stay as they are
      let folded := !literal && first = ['\n'] && !gapBefore && !gap
      let joint := if folded then (if more = [] then [' '] else more) else first ++ more
      let line := p.rest.takeWhile fun c => !isBreak c
      let p := p.pass line.length
      let first := p.breakText
      let p := if p.atBreak then p.passBreak else p
      match blockBreaks indent (fuel + 1) 0 [] p with
      | none => none
      | some (_, more, p) => blockLines literal indent fuel (line :: joint :: parts) gap first more p

/-- A scalar written as a block, and the place behind it. `outer` is the indentation around it. -/
def block? (literal : Bool) (outer : Int) (p : Place) : Option (Text × Place) :=
  match blockMarks? (p.rest.drop 1) with
  | none => none
  | some (chomping, increment, count) =>
    let p := (p.pass (count + 1)).passWhile isGap
    let p := if p.peek = some '#' then p.passWhile fun c => !isBreak c else p
    if p.rest ≠ [] && !p.atBreak then none
    else
      let p := if p.atBreak then p.passBreak else p
      let given := if increment = 0 then 0 else (max outer 0).toNat + increment
      match blockBreaks given (p.rest.length + 1) 0 [] p with
      | none => none
      | some (deepest, more, p) =>
        let indent := if given = 0 then max deepest (max (outer + 1).toNat 1) else given
        match blockLines literal indent (p.rest.length + 1) [] false [] more p with
        | none => none
        | some (parts, first, more, p) =>
          let s := parts.reverse.flatten
          match chomping with
          | .strip => some (s, p)
          | .clip => some (s ++ first, p)
          | .keep => some (s ++ first ++ more, p)

end ScriptTrace.Yaml
