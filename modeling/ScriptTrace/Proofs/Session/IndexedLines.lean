import ScriptTrace.Proofs.Source.Entries
import ScriptTrace.Proofs.Throwpoint.Chains
import ScriptTrace.Session.Builder

/-! Lines of a file as the index and as a position in the file count them.
Both decode the bytes of the file and number its lines from one. -/
namespace ScriptTrace
open Text

namespace FileReader
variable {read : FileReader} {path : Text} {bytes : Utf8.Bytes} {table : Source.Table}

private theorem index_of_indexer (hread : read path = .ok bytes)
    (hi : (read.indexer path).result = .ok table) :
    Source.index (Utf8.decodeLossy bytes) = .ok table := by
  rw [indexer, hread] at hi
  exact hi

end FileReader

namespace Session
open ScriptTrace.Action

section File
variable {s : Session} {link : Link} {bytes : Utf8.Bytes}

private theorem fileLine_of_getElem? {number : Nat} {line : Text} (hn : 0 < number)
    (hl : (lines (Utf8.decodeLossy bytes))[number - 1]? = some line) :
    fileLine bytes number = line := by
  rw [fileLine, if_neg (Nat.ne_of_gt hn), hl, Option.getD_some]

private theorem fileFrame_of_read (hread : s.host.read link.body = .ok bytes) (cache : Cache) :
    ((s.fileFrame link).run cache).value =
      { Frame.ofFile link.body link.line with
        line := fileLine bytes link.line, text := fileLine bytes link.line } := by
  have ha (answer : Except FileError Utf8.Bytes) :
      (Action.read link.body answer).run cache = ⟨answer, cache, [.read link.body]⟩ := rfl
  simp only [fileFrame, run_bind, ha, hread]
  rfl

/-- A position in a file is built from the file alone. -/
theorem buildCanonical_file (hl : link.line < wordLimit)
    (hf : ¬ Throwpoint.functionMark <+: link.body) (cache : Cache) :
    ((s.buildCanonical link.display).run cache).value =
      .ok ⟨[((s.fileFrame link).run cache).value]⟩ := by
  simp only [buildCanonical, Throwpoint.parse?_display_file hl hf]
  rfl

end File

/-- An entry of the index of a file leads to a line that defines a name of its key, and the position
of this line in the file shows the very line, with its number and the path. -/
theorem buildCanonical_indexed_line {s : Session} {read : FileReader} {path : Text}
    {bytes : Utf8.Bytes} {table : Source.Table} (hp : ¬ Throwpoint.functionMark <+: path)
    (hread : read path = .ok bytes) (hhost : s.host.read path = .ok bytes)
    (hi : (read.indexer path).result = .ok table) {key : Text} {number : Nat}
    (hk : (key, number) ∈ table) (hn : number < wordLimit) (cache : Cache) :
    ∃ line name, 0 < number ∧ (lines (Utf8.decodeLossy bytes))[number - 1]? = some line ∧
      Source.LineKind.classify line = .definition name ∧ Source.KeyOf name key ∧
      ((s.buildCanonical (Link.display ⟨path, number⟩)).run cache).value =
        .ok ⟨[{ Frame.empty with filename := path, lnum := number, line, text := line }]⟩ := by
  have hindex := FileReader.index_of_indexer hread hi
  have hlookup := (Source.unique_of_index hindex).mem_iff.1 hk
  obtain ⟨hpos, line, name, hline, hclass, hname⟩ := Source.definition_of_lookup hindex hlookup
  refine ⟨line, name, hpos, hline, hclass, Source.keyOf_iff.2 hname, ?_⟩
  rw [buildCanonical_file hn hp, fileFrame_of_read hhost, fileLine_of_getElem? hpos hline]
  rfl

private def brokenScript : Utf8.Bytes :=
  Utf8.encode "\" ".toList ++ [0xFF, 0xC3] ++ Utf8.encode "\r\nfunction! s:f() \"".toList ++
    [0xE2, 0x82] ++ Utf8.encode "\r\n  :func <Sid>f(...)\r\n  endf\r\nendf".toList

private def brokenFile : FileReader := fun path =>
  if path = "x[2].vim".toList then .ok brokenScript else .error .notFound

theorem buildCanonical_indexed_line_broken :
    ∃ line name, 0 < 3 ∧ (lines (Utf8.decodeLossy brokenScript))[3 - 1]? = some line ∧
      Source.LineKind.classify line = .definition name ∧ Source.KeyOf name "s:f".toList ∧
      (((Session.offline brokenFile none).buildCanonical "x[2].vim[3]".toList).run .empty).value =
        .ok ⟨[{ Frame.empty with
          filename := "x[2].vim".toList, lnum := 3, line, text := line }]⟩ := by
  have hread : brokenFile "x[2].vim".toList = .ok brokenScript := if_pos rfl
  have hi : (brokenFile.indexer "x[2].vim".toList).result = .ok [("s:f".toList, 3)] := by
    decide +kernel
  have hp : ¬ Throwpoint.functionMark <+: "x[2].vim".toList := by decide
  have hc : Link.display ⟨"x[2].vim".toList, 3⟩ = "x[2].vim[3]".toList := by decide +kernel
  have h := buildCanonical_indexed_line (s := Session.offline brokenFile none) hp hread hread hi
    List.mem_cons_self (by decide) .empty
  rw [hc] at h
  exact h

end Session
end ScriptTrace
