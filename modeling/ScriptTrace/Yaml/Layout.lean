import ScriptTrace.Yaml.Scalar
import ScriptTrace.Yaml.Token

/-! The layout of a YAML text, read into tokens.
A colon can make a key of what was read before it, so tokens may still be put in front of the
latest ones. -/
namespace ScriptTrace.Yaml

/-- Where something stands that a colon behind it makes a key. -/
structure KeyStart where
  /-- Tokens before it. -/
  number : Nat
  /-- Bytes before it. -/
  index : Nat
  line : Nat
  column : Nat
  /-- Nothing but a key can stand there. -/
  required : Bool
  deriving DecidableEq, Repr

/-- A reading of a YAML text up to some place. -/
structure Layout where
  place : Place
  /-- The tokens before it, the latest first. -/
  tokens : List Token
  /-- The column of the innermost block, below zero where there is none. -/
  indent : Int
  /-- The columns of the blocks around it, the nearest first. -/
  outer : List Int
  /-- What a colon can make a key, for the blocks and for each bracket in them that is open, the
  innermost first. -/
  keys : List (Option KeyStart)
  /-- A key may begin here. -/
  keyAllowed : Bool
  deriving DecidableEq, Repr

namespace Layout

def start (s : Text) : Layout := ⟨.start s, [], -1, [], [none], true⟩

def inFlow (l : Layout) : Bool := 1 < l.keys.length

/-- The bytes of a key, with those between it and its colon, are no more than this. -/
def keyLimit : Nat := 1024

def push (l : Layout) (t : Token) : Layout := { l with tokens := t :: l.tokens }

/-- Puts tokens, the latest first, behind the first `number` ones. -/
def insert (l : Layout) (number : Nat) (ts : List Token) : Layout :=
  let behind := l.tokens.length - number
  { l with tokens := l.tokens.take behind ++ ts ++ l.tokens.drop behind }

def goto (l : Layout) (p : Place) : Layout := { l with place := p }

/-- Gives up what could have become a key, unless nothing else can stand there. -/
def dropKey (l : Layout) : Option Layout :=
  match l.keys with
  | some k :: rest => if k.required then none else some { l with keys := none :: rest }
  | _ => some l

def markKey (l : Layout) : Option Layout :=
  if !l.keyAllowed then some l
  else
    l.dropKey.map fun l =>
      let p := l.place
      let required := !l.inFlow && l.indent = p.column
      { l with keys := some ⟨l.tokens.length, p.index, p.line, p.column, required⟩ :: l.keys.drop 1 }

/-- A key is on one line and not too long. -/
def isStale (p : Place) (k : KeyStart) : Bool :=
  k.line < p.line || k.index + keyLimit < p.index

/-- Gives up all that can no longer become a key, unless nothing else can stand there. -/
def dropStale (l : Layout) : Option Layout :=
  if l.keys.any fun k => k.any fun k => k.required && isStale l.place k then none
  else some { l with keys := l.keys.map fun k => k.filter fun k => !isStale l.place k }

/-- The tokens that open a block at a column, if that is further in than the innermost one. -/
def openBlock (l : Layout) (column : Nat) (t : Token) : List Token × Layout :=
  if !l.inFlow && l.indent < column then
    ([t], { l with indent := column, outer := l.indent :: l.outer })
  else ([], l)

/-- How many blocks end before a column, and the column of the innermost one left with those of the
blocks around it. -/
def closing (column : Int) : Int → List Int → Nat × Int × List Int
  | indent, [] => (0, indent, [])
  | indent, next :: outer =>
    if column < indent then
      let (count, left) := closing column next outer
      (count + 1, left)
    else (0, indent, next :: outer)

def closeBlocks (l : Layout) (column : Int) : Layout :=
  if l.inFlow then l
  else
    let (count, indent, outer) := closing column l.indent l.outer
    { l with tokens := List.replicate count .blockEnd ++ l.tokens, indent, outer }

/-- Passes white space and comments. The fuel bounds the lines. -/
def passSpace : Nat → Layout → Layout
  | 0, l => l
  | fuel + 1, l =>
    let p := l.place
    let p := if p.column = 0 && p.peek = some orderMark then p.pass 1 else p
    -- tabs are white space where no key can begin
    let p := p.passWhile fun c => c = ' ' || ((l.inFlow || !l.keyAllowed) && c = '\t')
    let p := if p.peek = some '#' then p.passWhile fun c => !isBreak c else p
    if p.atBreak then
      passSpace fuel { l with place := p.passBreak, keyAllowed := l.keyAllowed || !l.inFlow }
    else l.goto p

def pushDocument (l : Layout) (t : Token) (p : Place) : Option Layout :=
  (l.closeBlocks (-1)).dropKey.map fun l => { (l.push t).goto p with keyAllowed := false }

def pushContent (l : Layout) (t : Token) (p : Place) : Option Layout :=
  l.markKey.map fun l => { (l.push t).goto p with keyAllowed := false }

def openFlow (l : Layout) (t : Token) : Option Layout :=
  l.markKey.map fun l =>
    { (l.push t).goto (l.place.pass 1) with keys := none :: l.keys, keyAllowed := true }

def closeFlow (l : Layout) (t : Token) : Option Layout :=
  l.dropKey.map fun l =>
    { (l.push t).goto (l.place.pass 1) with
      keys := if l.inFlow then l.keys.drop 1 else l.keys, keyAllowed := false }

def comma (l : Layout) : Option Layout :=
  l.dropKey.map fun l => { (l.push .comma).goto (l.place.pass 1) with keyAllowed := true }

/-- A mark of one character that opens a block of its own, where a key could begin. -/
def pushMark (l : Layout) (block mark : Token) (keyAfter : Bool) : Option Layout :=
  if !l.inFlow && !l.keyAllowed then none
  else
    let (ts, l) := l.openBlock l.place.column block
    (l.insert l.tokens.length ts).dropKey.map fun l =>
      { (l.push mark).goto (l.place.pass 1) with keyAllowed := keyAfter }

/-- A colon. It makes a key of what can be one, and else follows a key that was marked as such. -/
def colon (l : Layout) : Option Layout :=
  match l.keys with
  | some k :: rest =>
    let (ts, l) := { l with keys := none :: rest }.openBlock k.column .blockMapping
    let l := l.insert k.number (.key :: ts)
    some { (l.push .value).goto (l.place.pass 1) with keyAllowed := false }
  | _ =>
    if !l.inFlow && !l.keyAllowed then none
    else
      let (ts, l) := l.openBlock l.place.column .blockMapping
      let l := l.insert l.tokens.length ts
      some { (l.push .value).goto (l.place.pass 1) with keyAllowed := !l.inFlow }

def pushBlock (l : Layout) (literal : Bool) : Option Layout :=
  match l.dropKey, block? literal l.indent l.place with
  | some l, some (s, p) =>
    some { (l.push (.scalar s (if literal then .literal else .folded))).goto p with keyAllowed := true }
  | _, _ => none

def pushQuoted (l : Layout) (quote : Char) : Option Layout :=
  match quoted? quote l.place with
  | some (s, p) => l.pushContent (.scalar s .quoted) p
  | none => none

/-- A plain scalar. Behind one that ended on a later line a key may begin. -/
def pushPlain (l : Layout) : Option Layout :=
  match plain? l.inFlow (l.indent + 1).toNat l.place with
  | some (s, broken, p) =>
    (l.pushContent (.scalar s .plain) p).map fun l => { l with keyAllowed := broken }
  | none => none

def indicators : List Char := "-?:,[]\x7b\x7d#&*!|>'\"%@`".toList

/-- A plain scalar may begin with the next characters. Some indicators begin one where a character
other than white space follows. -/
def beginsPlain (flow : Bool) : Text → Bool
  | [] => false
  | c :: rest =>
    (!isSpace c && !indicators.contains c) || (c = '-' && !rest.head?.any isGap) ||
      (!flow && (c = '?' || c = ':') && !isEdge rest.head?)

/-- Reads the next token, with those that come before it. -/
def step (l : Layout) : Option Layout := do
  let l ← (passSpace (l.place.rest.length + 1) l).dropStale
  let l := l.closeBlocks l.place.column
  let p := l.place
  match p.rest with
  | [] => some l
  | c :: rest =>
    let edge := isEdge rest.head?
    if p.column = 0 && c = '%' then do
      let (t, p) ← Token.directive? p
      l.pushDocument t p
    else if p.column = 0 && p.atMark Place.openingMark then l.pushDocument .documentStart (p.pass 3)
    else if p.column = 0 && p.atMark Place.closingMark then l.pushDocument .documentEnd (p.pass 3)
    else if c = '[' then l.openFlow .openBracket
    else if c = '\x7b' then l.openFlow .openBrace
    else if c = ']' then l.closeFlow .closeBracket
    else if c = '\x7d' then l.closeFlow .closeBrace
    else if c = ',' then l.comma
    else if c = '-' && edge then l.pushMark .blockSequence .item true
    else if c = '?' && (l.inFlow || edge) then l.pushMark .blockMapping .key (!l.inFlow)
    else if c = ':' && (l.inFlow || edge) then l.colon
    else if c = '*' then do
      let (name, p) ← Token.name? p
      l.pushContent (.reference name) p
    else if c = '&' then do
      let (name, p) ← Token.name? p
      l.pushContent (.anchor name) p
    else if c = '!' then do
      let (t, p) ← Token.tag? l.inFlow p
      l.pushContent t p
    else if c = '|' && !l.inFlow then l.pushBlock true
    else if c = '>' && !l.inFlow then l.pushBlock false
    else if c = '\'' || c = '"' then l.pushQuoted c
    else if beginsPlain l.inFlow p.rest then l.pushPlain
    else none

def run : Nat → Layout → Option Layout
  | 0, _ => none
  | fuel + 1, l =>
    match l.step with
    | none => none
    | some l =>
      if l.place.rest = [] then (l.closeBlocks (-1)).dropKey else run fuel l

end Layout

def tokens? (s : Text) : Option (List Token) :=
  if s.all isAllowed then
    (Layout.run (s.length + 1) (.start s)).map fun l => l.tokens.reverse
  else none

end ScriptTrace.Yaml
