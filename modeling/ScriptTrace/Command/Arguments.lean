import ScriptTrace.Text.Lines

/-! The arguments of the command line.
Flags may stand anywhere before a double dash, and everything behind it is a plain argument. -/
namespace ScriptTrace.Command
open Text

/-- What the command line asks for. -/
inductive Task where
  | build (throwpoint : Text) (json : Bool)
  | errors (file : Option Text) (json select : Bool)
  | index (file : Text)
  | serve
  deriving DecidableEq, Repr

/-- What a list of arguments comes to. -/
inductive Parsed (α : Type) where
  | command (c : α)
  | version
  | help
  | misuse
  deriving DecidableEq, Repr

namespace Parsed

def bind {α β : Type} (p : Parsed α) (f : α → Parsed β) : Parsed β :=
  match p with
  | command c => f c
  | version => .version
  | help => .help
  | misuse => .misuse

end Parsed

/-- Flags and plain arguments, in order. -/
structure Given where
  flags : List Text
  plain : List Text
  deriving DecidableEq, Repr

namespace Given

def none : Given := ⟨[], []⟩

def has (g : Given) (flag : Text) : Bool := g.flags.contains flag

end Given

/-- What arguments a command takes. -/
structure Signature where
  /-- The flags, each of which may be given once. -/
  flags : List Text
  most : Nat
  /-- A plain argument may be empty. The name of a file may not. -/
  empty : Bool
  deriving DecidableEq, Repr

namespace Signature

def addPlain (g : Signature) (given : Given) (plain : List Text) : Parsed Given :=
  let all := given.plain ++ plain
  if all.length ≤ g.most && (g.empty || !plain.contains []) then .command { given with plain := all }
  else .misuse

/-- Sorts arguments into flags and plain ones. The first that asks for help or does not fit
decides. -/
def sort (g : Signature) : Given → List Text → Parsed Given
  | given, [] => .command given
  | given, argument :: rest =>
    match argument with
    | ['-', '-'] => g.addPlain given rest
    | '-' :: '-' :: flag =>
      if flag = "help".toList then .help
      else if g.flags.contains flag && !given.has flag then
        g.sort { given with flags := given.flags ++ [flag] } rest
      else .misuse
    | '-' :: letter :: _ => if letter = 'h' then .help else .misuse
    | _ => (g.addPlain given [argument]).bind fun given => g.sort given rest

end Signature

def jsonFlag : Text := "json".toList

def selectFlag : Text := "select".toList

def commandNames : List Text :=
  ["build".toList, "histerrs".toList, "index".toList, "serve".toList, "help".toList]

def parseHelp : List Text → Parsed Task
  | [] => .help
  | [topic] => if commandNames.contains topic then .help else .misuse
  | _ => .misuse

def parseNamed (name : Text) (arguments : List Text) : Parsed Task :=
  if name = "build".toList then
    (Signature.sort ⟨[jsonFlag], 1, true⟩ .none arguments).bind fun given =>
      match given.plain with
      | [throwpoint] => .command (.build throwpoint (given.has jsonFlag))
      | _ => .misuse
  else if name = "histerrs".toList then
    (Signature.sort ⟨[jsonFlag, selectFlag], 1, false⟩ .none arguments).bind fun given =>
      .command (.errors given.plain.head? (given.has jsonFlag) (given.has selectFlag))
  else if name = "index".toList then
    (Signature.sort ⟨[], 1, false⟩ .none arguments).bind fun given =>
      match given.plain with
      | [file] => .command (.index file)
      | _ => .misuse
  else if name = "serve".toList then
    (Signature.sort ⟨[], 0, false⟩ .none arguments).bind fun _ => .command .serve
  else if name = "help".toList then parseHelp arguments
  else .misuse

def parse : List Text → Parsed Task
  | [] => .misuse
  | argument :: rest =>
    match argument with
    | '-' :: '-' :: flag =>
      if flag = "version".toList then .version
      else if flag = "help".toList then .help
      else .misuse
    | '-' :: letter :: _ =>
      if letter = 'V' then .version else if letter = 'h' then .help else .misuse
    | name => parseNamed name rest

end ScriptTrace.Command
