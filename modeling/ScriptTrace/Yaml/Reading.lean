import ScriptTrace.Yaml.Layout

/-! The documents that the tokens of a YAML text write.
Only a text with at most one document has a reading. -/
namespace ScriptTrace.Yaml

/-- Tokens that are left, and the anchors before them. -/
structure Reading where
  left : List Token
  /-- Names with the numbers of their anchors. -/
  names : List (Text × Nat)
  /-- The numbers of the anchors, the latest first, each with how many anchors begin before it. -/
  anchors : List (Nat × Nat)
  /-- The values at anchors, each under how many anchors begin before its own. -/
  anchored : List (Nat × Yaml)
  deriving Repr

namespace Reading

def start (tokens : List Token) : Reading := ⟨tokens, [], [], []⟩

def peek (r : Reading) : Option Token := r.left.head?

def pass (r : Reading) : Reading := { r with left := r.left.drop 1 }

def name (r : Reading) (name : Text) : Reading :=
  -- a name that comes again does not raise the count, so its anchor can share the number of a later one
  let number := r.names.length
  { r with
    names := (name, number) :: r.names.filter (·.1 ≠ name)
    anchors := (number, r.anchors.length) :: r.anchors }

/-- The values at the anchors under their numbers, those that begin latest first. -/
def numbered (r : Reading) : List (Nat × Yaml) :=
  r.anchors.filterMap fun (number, before) =>
    (r.anchored.lookup before).map fun v => (number, v)

def properties (r : Reading) : Option Text × Option (Text × Text) × Reading :=
  match r.left with
  | .anchor a :: .tag h s :: rest => (some a, some (h, s), { r with left := rest })
  | .anchor a :: rest => (some a, none, { r with left := rest })
  | .tag h s :: .anchor a :: rest => (some a, some (h, s), { r with left := rest })
  | .tag h s :: rest => (none, some (h, s), { r with left := rest })
  | _ => (none, none, r)

end Reading

def standardHandles : List (Text × Text) :=
  [("!".toList, "!".toList), ("!!".toList, "tag:yaml.org,2002:".toList)]

def fullTag? (handles : List (Text × Text)) : Text × Text → Option Text
  | ([], suffix) => some suffix
  | (short, suffix) => (handles.lookup short).map (· ++ suffix)

section
variable (handles : List (Text × Text))

mutual

/-- A value. One that is no block stands between brackets. The fuel bounds the steps. -/
def node : Nat → Bool → Bool → Reading → Option (Yaml × Reading)
  | 0, _, _, _ => none
  | fuel + 1, block, flush, r =>
    match r.left with
    | .reference name :: _ => (r.names.lookup name).map fun n => (.reference n, r.pass)
    | _ =>
      let (anchor, given, r) := r.properties
      let tag : Option (Option Text) := match given with
        | none => some none
        | some t => (fullTag? handles t).map some
      match tag with
      | none => none
      | some tag =>
        let before := r.anchors.length
        let r := match anchor with
          | some a => r.name a
          | none => r
        let body : Option (Yaml × Reading) := match r.peek with
          | some .item =>
            if flush then (flushItems fuel r).map fun (vs, r) => (.sequence vs, r)
            else if anchor.isSome || tag.isSome then some (.scalar [] .plain tag, r)
            else none
          | some (.scalar s style) => some (.scalar s style tag, r.pass)
          | some .openBracket =>
            (flowItems fuel true r.pass).map fun (vs, r) => (.sequence vs, r)
          | some .openBrace =>
            (flowMembers fuel true r.pass).map fun (ms, r) => (.mapping ms, r)
          | next =>
            if block && next = some .blockSequence then
              (blockItems fuel r.pass).map fun (vs, r) => (.sequence vs, r)
            else if block && next = some .blockMapping then
              (blockMembers fuel r.pass).map fun (ms, r) => (.mapping ms, r)
            else if anchor.isSome || tag.isSome then some (.scalar [] .plain tag, r)
            else none
        body.map fun (v, r) =>
          (v, if anchor.isSome then { r with anchored := (before, v) :: r.anchored } else r)

/-- A value, or nothing before one of the tokens `ends`. -/
def nodeOr : Nat → Bool → Bool → List Token → Reading → Option (Yaml × Reading)
  | 0, _, _, _, _ => none
  | fuel + 1, block, flush, ends, r =>
    if r.peek.any ends.contains then some (nothing, r) else node fuel block flush r

def blockItems : Nat → Reading → Option (List Yaml × Reading)
  | 0, _ => none
  | fuel + 1, r =>
    match r.peek with
    | some .item =>
      match nodeOr fuel true false [.item, .blockEnd] r.pass with
      | none => none
      | some (v, r) => (blockItems fuel r).map fun (vs, r) => (v :: vs, r)
    | some .blockEnd => some ([], r.pass)
    | _ => none

/-- The items of a sequence that has no indentation of its own. -/
def flushItems : Nat → Reading → Option (List Yaml × Reading)
  | 0, _ => none
  | fuel + 1, r =>
    if r.peek = some .item then
      match nodeOr fuel true false [.item, .key, .value, .blockEnd] r.pass with
      | none => none
      | some (v, r) => (flushItems fuel r).map fun (vs, r) => (v :: vs, r)
    else some ([], r)

def blockMembers : Nat → Reading → Option (List (Yaml × Yaml) × Reading)
  | 0, _ => none
  | fuel + 1, r =>
    match r.peek with
    | some .key =>
      match nodeOr fuel true true [.key, .value, .blockEnd] r.pass with
      | none => none
      | some (k, r) =>
        let value :=
          if r.peek = some .value then nodeOr fuel true true [.key, .value, .blockEnd] r.pass
          else some (nothing, r)
        match value with
        | none => none
        | some (v, r) => (blockMembers fuel r).map fun (ms, r) => ((k, v) :: ms, r)
    | some .blockEnd => some ([], r.pass)
    | _ => none

/-- The items of a sequence in brackets, the first of which needs no comma. -/
def flowItems : Nat → Bool → Reading → Option (List Yaml × Reading)
  | 0, _, _ => none
  | fuel + 1, first, r =>
    if r.peek = some .closeBracket then some ([], r.pass)
    else if !first && r.peek ≠ some .comma then none
    else
      let r := if first then r else r.pass
      match r.peek with
      | some .closeBracket => some ([], r.pass)
      | some .key =>
        match flowPair fuel r.pass with
        | none => none
        | some (m, r) => (flowItems fuel false r).map fun (vs, r) => (.mapping [m] :: vs, r)
      | _ =>
        match node fuel false false r with
        | none => none
        | some (v, r) => (flowItems fuel false r).map fun (vs, r) => (v :: vs, r)

def flowPair : Nat → Reading → Option ((Yaml × Yaml) × Reading)
  | 0, _ => none
  | fuel + 1, r =>
    let key :=
      -- where nothing is written for the key, the next token is lost
      if r.peek.any [.value, .comma, .closeBracket].contains then some (nothing, r.pass)
      else node fuel false false r
    match key with
    | none => none
    | some (k, r) => (flowValue fuel .closeBracket r).map fun (v, r) => ((k, v), r)

def flowValue : Nat → Token → Reading → Option (Yaml × Reading)
  | 0, _, _ => none
  | fuel + 1, close, r =>
    if r.peek = some .value then nodeOr fuel false false [.comma, close] r.pass
    else some (nothing, r)

def flowMembers : Nat → Bool → Reading → Option (List (Yaml × Yaml) × Reading)
  | 0, _, _ => none
  | fuel + 1, first, r =>
    if r.peek = some .closeBrace then some ([], r.pass)
    else if !first && r.peek ≠ some .comma then none
    else
      let r := if first then r else r.pass
      match r.peek with
      | some .closeBrace => some ([], r.pass)
      | some .key =>
        match nodeOr fuel false false [.value, .comma, .closeBrace] r.pass with
        | none => none
        | some (k, r) =>
          match flowValue fuel .closeBrace r with
          | none => none
          | some (v, r) => (flowMembers fuel false r).map fun (ms, r) => ((k, v) :: ms, r)
      | _ =>
        match node fuel false false r with
        | none => none
        | some (k, r) => (flowMembers fuel false r).map fun (ms, r) => ((k, nothing) :: ms, r)

end

end

/-- The directives before a document, and the tag handles that they give. A handle is given once. -/
def directives (version : Bool) (handles : List (Text × Text)) :
    List Token → Option (List (Text × Text) × List Token)
  | .version major minor :: rest =>
    if version || major ≠ 1 || (minor ≠ 1 && minor ≠ 2) then none
    else directives true handles rest
  | .handle short full :: rest =>
    if (handles.lookup short).isSome then none
    else directives version (handles ++ [(short, full)]) rest
  | rest => some (handles ++ standardHandles, rest)

def isBoundary : Token → Bool
  | .version _ _ => true
  | .handle _ _ => true
  | .documentStart => true
  | .documentEnd => true
  | _ => false

/-- The value of a document, and the tokens behind its end. -/
def content (handles : List (Text × Text)) (r : Reading) : Option (Yaml × Reading) :=
  (node handles (8 * r.left.length + 8) true false r).map fun (v, r) =>
    (v, if r.peek = some .documentEnd then r.pass else r)

def first? (tokens : List Token) : Option (Option Yaml × Reading) :=
  match tokens with
  | [] => some (none, .start [])
  | .documentEnd :: _ => none
  | t :: _ =>
    -- the first document may begin without its mark
    if !isBoundary t then
      (content standardHandles (.start tokens)).map fun (v, r) => (some v, r)
    else
      match directives false [] tokens with
      | some (handles, .documentStart :: rest) =>
        if rest.head?.all isBoundary then
          let r := Reading.start rest
          some (some nothing, if r.peek = some .documentEnd then r.pass else r)
        else (content handles (.start rest)).map fun (v, r) => (some v, r)
      | _ => none

def read? (s : Text) : Option Document := do
  let (root, r) ← first? (← tokens? s)
  if r.left.all (· = .documentEnd) then some ⟨root, r.numbered⟩ else none

end ScriptTrace.Yaml
