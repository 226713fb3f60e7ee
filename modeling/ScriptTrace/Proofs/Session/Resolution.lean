import ScriptTrace.Proofs.Session.Ensures
import ScriptTrace.Session.Builder

/-! The frames of a function chain, one link at a time and without a cache.
A cache that agrees with the indexer gives the same frames, whatever links came before. -/
namespace ScriptTrace

/-- Every table in the cache is the one that this indexer makes of each path it is kept for. -/
def Cache.Agrees (indexer : Text → Indexing) (cache : Cache) : Prop :=
  ∀ path table, cache.find? path = some table → table = (indexer path).table

namespace Session

/-- The indexer makes the same table of paths that the cache takes for one, a failure being an
empty table. -/
def IndexesByComponents (s : Session) : Prop :=
  ∀ p q, Path.components p = Path.components q → (s.indexer p).table = (s.indexer q).table

/-- The line in a file of a line in the function that the file defines under this name. It is zero
without a file, a table of the file, or a line other than zero for the name. -/
def lineInFile (s : Session) (file : Option Text) (name : Text) (flnum : Nat) : Nat :=
  match file.map fun path => (s.indexer path).result with
  | some (.ok table) =>
    match table.lookup name with
    | none | some 0 => 0
    | some definition => definition + flnum
  | _ => 0

def resolve (s : Session) (link : Link) : Frame :=
  let funcname := Name.display link.body
  match s.host.describe funcname with
  | .error _ =>
    ⟨funcname, link.line, [], [], 0, Frame.label funcname link.line⟩
  | .ok listing =>
    let dump := Dump.parse s.home listing
    let line := (dump.lineText? link.line).getD []
    ⟨funcname, link.line, line, dump.sourceFile.getD [],
      s.lineInFile dump.sourceFile (Name.source funcname) link.line,
      Frame.label funcname link.line ++ line⟩

def resolveWord (s : Session) (link : Link) : Frame :=
  { s.resolve link with lnum := (s.resolve link).lnum % Text.wordLimit }

end Session

namespace Cache
variable {indexer : Text → Indexing}

theorem agrees_empty : Agrees indexer empty := by
  intro path table h
  cases h

/-- A table is kept for all paths that the cache takes for one. -/
theorem Agrees.insert {cache : Cache} (h : cache.Agrees indexer) {path : Text}
    (hi : ∀ q, Path.components q = Path.components path → (indexer q).table = (indexer path).table) :
    (cache.insert path (indexer path).table).Agrees indexer := by
  intro q table hq
  rw [find?_insert] at hq
  split at hq
  · next he =>
    cases hq
    exact (hi q he).symm
  · exact h q table hq

end Cache

namespace Session
open ScriptTrace.Action

/-- The line is counted on from the definition, whose own line is zero where it is unknown. -/
theorem lineInFile_some (s : Session) (file name : Text) (flnum : Nat) :
    s.lineInFile (some file) name flnum =
      if (s.indexer file).table.lineOf name = 0 then 0
      else (s.indexer file).table.lineOf name + flnum := by
  cases hr : (s.indexer file).result with
  | error e => simp [lineInFile, Indexing.table, hr, Source.Table.lineOf]
  | ok table =>
    rcases hl : table.lookup name with _ | _ | definition <;>
      simp [lineInFile, Indexing.table, hr, Source.Table.lineOf, hl]

/-- A line that is a word stays as it is. -/
theorem resolveWord_of_lt {s : Session} {link : Link}
    (h : (s.resolve link).lnum < Text.wordLimit) : s.resolveWord link = s.resolve link := by
  rw [resolveWord, Nat.mod_eq_of_lt h]

section Agreement
variable {s : Session} (hs : s.IndexesByComponents)
include hs

private theorem ensures_lookup (path : Text) :
    Ensures (Cache.Agrees s.indexer) (lookup s.indexer path) (· = (s.indexer path).table) := by
  intro cache h
  unfold Action.run lookup
  cases hf : cache.find? path with
  | some table => exact ⟨h path table hf, h⟩
  | none => exact ⟨rfl, h.insert fun q => hs q path⟩

/-- A cache that agrees with the indexer leads to the line that the indexer alone would give. -/
theorem ensures_absoluteLine (funcname file : Text) (flnum : Nat) :
    Ensures (Cache.Agrees s.indexer) (s.absoluteLine funcname file flnum)
      (· = s.lineInFile (some file) (Name.source funcname) flnum % Text.wordLimit) := by
  have hd : Ensures (Cache.Agrees s.indexer)
      (definitionLine s.indexer (Name.source funcname) file)
      (· = (s.indexer file).table.lineOf (Name.source funcname)) :=
    (ensures_lookup hs file).map fun table ht => by rw [ht]
  refine hd.bind ?_
  rintro _ rfl
  rw [lineInFile_some]
  split
  · exact (ensures_note _ _ _).bind fun _ _ => ensures_pure rfl
  · exact ensures_pure rfl

/-- A cache that agrees with the indexer leads to the frame that the link alone has. -/
theorem ensures_functionFrame (link : Link) :
    Ensures (Cache.Agrees s.indexer) (s.functionFrame link) (· = s.resolveWord link) := by
  refine (ensures_ask _ _).bind ?_
  rintro _ rfl
  cases hd : s.host.describe (Name.display link.body) with
  | error e =>
    simp only [resolveWord, resolve, hd, Nat.zero_mod]
    exact (ensures_note _ _ _).bind fun _ _ => ensures_pure rfl
  | ok listing =>
    simp only [resolveWord, resolve, hd]
    cases (Dump.parse s.home listing).sourceFile with
    | none => exact ensures_pure rfl
    | some file =>
      refine (ensures_absoluteLine hs _ file _).map ?_
      rintro _ rfl
      rfl

end Agreement

/-- The stacktrace of a function chain has the frame of every link, in the order of the links. The
lines in files are words. -/
theorem buildCanonical_function {s : Session} (hs : s.IndexesByComponents) {chain : Text}
    {links : List Link} (hc : Throwpoint.parse? chain = some (.function links))
    (hw : ∀ link ∈ links, (s.resolve link).lnum < Text.wordLimit) (cache : Cache) :
    ((s.buildCanonical chain).run cache).value = .ok ⟨links.map s.resolve⟩ := by
  have hf : Ensures (Cache.Agrees s.indexer) (forEach s.functionFrame links)
      (· = links.map s.resolve) :=
    Ensures.forEach_eq fun link hl => resolveWord_of_lt (hw link hl) ▸ ensures_functionFrame hs link
  have hv := (hf .empty Cache.agrees_empty).1
  simp only [buildCanonical, hc]
  exact congrArg (fun frames => Except.ok (Stacktrace.mk frames)) hv

private def twoSpellings : Session where
  host :=
    { evaluate expression := .error (.unavailable expression)
      describe name :=
        if name = "F".toList then
          .ok "   function F()\n\tLast set from a//p.vim line 3\n1    call s:g()\n   endfunction".toList
        else if name = "<SNR>7_g".toList then
          .ok "   function <SNR>7_g()\n\tLast set from a/./p.vim\n1    throw 1\n   endfunction".toList
        else .error (.failed (Host.describeCall name) "no such function".toList)
      read _ := .error .notFound }
  indexer path :=
    if Path.components path = [.name "a".toList, .name "p.vim".toList] then
      ⟨.ok [("F".toList, 3), ("s:g".toList, 8)], []⟩
    else ⟨.error (.unreadable path .notFound), []⟩
  chooser := none
  home := none

private theorem twoSpellings_indexes : twoSpellings.IndexesByComponents := by
  intro p q h
  unfold twoSpellings
  dsimp only
  rw [h]
  split
  · rfl
  · rfl

theorem buildCanonical_function_two_spellings :
    twoSpellings.IndexesByComponents ∧
    Throwpoint.parse? "function F[1]..14[2]..<SNR>7_g[1]".toList =
      some (.function [⟨"F".toList, 1⟩, ⟨"14".toList, 2⟩, ⟨"<SNR>7_g".toList, 1⟩]) ∧
    (∀ link ∈ [⟨"F".toList, 1⟩, ⟨"14".toList, 2⟩, ⟨"<SNR>7_g".toList, 1⟩],
      (twoSpellings.resolve link).lnum < Text.wordLimit) ∧
    ((twoSpellings.buildCanonical "function F[1]..14[2]..<SNR>7_g[1]".toList).run .empty).value =
      .ok ⟨[⟨"F".toList, 1, "  call s:g()".toList, "a//p.vim".toList, 4, "F:1:  call s:g()".toList⟩,
        ⟨"\x7b14\x7d".toList, 2, [], [], 0, "\x7b14\x7d:2:".toList⟩,
        ⟨"<SNR>7_g".toList, 1, "  throw 1".toList, "a/./p.vim".toList, 9,
          "<SNR>7_g:1:  throw 1".toList⟩]⟩ := by
  have hc : Throwpoint.parse? "function F[1]..14[2]..<SNR>7_g[1]".toList =
      some (.function [⟨"F".toList, 1⟩, ⟨"14".toList, 2⟩, ⟨"<SNR>7_g".toList, 1⟩]) := by decide +kernel
  have hw : ∀ link ∈ [⟨"F".toList, 1⟩, ⟨"14".toList, 2⟩, ⟨"<SNR>7_g".toList, 1⟩],
      (twoSpellings.resolve link).lnum < Text.wordLimit := by decide +kernel
  refine ⟨twoSpellings_indexes, hc, hw, ?_⟩
  rw [buildCanonical_function twoSpellings_indexes hc hw]
  refine congrArg (fun frames => Except.ok (Stacktrace.mk frames)) ?_
  decide +kernel

end Session
end ScriptTrace
