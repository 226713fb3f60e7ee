import ScriptTrace.Proofs.Session.Resolution
import ScriptTrace.Proofs.Source.Definitions
import ScriptTrace.Proofs.Source.Keys
import ScriptTrace.Proofs.Text.Utf8
import ScriptTrace.Proofs.Throwpoint.Chains

/-! Lines of a running function as lines of the source that defines it.
The name of the running function and the written one lead to the same key of the index. -/
namespace ScriptTrace
open Text

namespace Name

/-- How a function that is defined under a key is called while it runs. -/
inductive Runs : Text → Text → Prop where
  | itself (key : Text) : Runs key key
  | scriptLocal (bare : Text) {digits : Text} (hd : isDigits digits = true) :
    Runs (localScope ++ bare) (localMark ++ (digits ++ '_' :: bare))

section Runs
variable {key live : Text} (h : Runs key live)
include h

/-- The name of a running function leads back to the key of its definition. -/
theorem Runs.source_eq (hk : ¬ localMark <+: key) : source live = key := by
  cases h with
  | itself => simp only [source, isPrefixOf?_eq_none_iff.2 hk]
  | @scriptLocal bare digits hd =>
    have hm : localMark.isPrefixOf? (localMark ++ (digits ++ '_' :: bare)) =
        some (digits ++ '_' :: bare) := isPrefixOf?_append _ _
    -- The bare name may have underscores of its own, the number before it has none.
    have hz : occurrences ['_'] digits = 0 := occurrences_eq_zero_iff.2 fun hi =>
      notMem_of_isDigits hd (by decide) (List.singleton_infix_iff '_' digits |>.1 hi)
    have hc : cutFirst? ['_'] (digits ++ '_' :: bare) = some (digits, bare) :=
      cutFirst?_append (c := '_') rfl (by decide) hz
    simp only [source, hm, hc]

theorem Runs.display_eq (hk : isDigits key = false) : display live = live := by
  cases h with
  | itself => simp [display, hk]
  | scriptLocal bare hd =>
    have hn (rest : Text) : isDigits (localMark ++ rest) = false := rfl
    simp [display, hn]

private theorem Runs.dot_notMem (hk : '.' ∉ key) : '.' ∉ live := by
  cases h with
  | itself => exact hk
  | scriptLocal bare hd =>
    rw [List.mem_append, not_or] at hk
    have hm : '.' ∉ localMark := by decide
    have hn := notMem_of_isDigits hd (c := '.') (by decide)
    simp [hm, hn, hk.2]

end Runs
end Name

namespace Session
open ScriptTrace.Action
variable (s : Session)

section Link

private theorem absoluteLine_empty (funcname file : Text) (flnum : Nat) :
    ((s.absoluteLine funcname file flnum).run .empty).value =
      s.lineInFile (some file) (Name.source funcname) flnum % wordLimit := by
  have hd : ((definitionLine s.indexer (Name.source funcname) file).run .empty).value =
      (s.indexer file).table.lineOf (Name.source funcname) := rfl
  rw [absoluteLine, run_bind, hd, lineInFile_some]
  split <;> rfl

/-- From the empty cache a link is resolved whatever the indexer takes for one file. -/
theorem functionFrame_empty (link : Link) :
    ((s.functionFrame link).run .empty).value = s.resolveWord link := by
  have hask (c : Call) (answer : Except QueryError Text) :
      (ask c answer).run .empty = ⟨answer, .empty, [.call c]⟩ := rfl
  simp only [functionFrame, resolveWord, resolve, run_bind, hask]
  cases s.host.describe (Name.display link.body) with
  | error e => rfl
  | ok listing =>
    dsimp only
    cases (Dump.parse s.home listing).sourceFile with
    | none => rfl
    | some file =>
      have hl := s.absoluteLine_empty (Name.display link.body) file link.line
      simp only [run_bind, run_pure, hl]
      rfl

/-- The chain of one link has the frame of the link. -/
theorem buildCanonical_link {link : Link} (hl : link.line < wordLimit)
    (hb : ¬ Throwpoint.chainMark <:+: link.body) (hw : (s.resolve link).lnum < wordLimit)
    (cache : Cache) :
    ((s.buildCanonical (Throwpoint.functionMark ++ link.display)).run cache).value =
      .ok ⟨[s.resolve link]⟩ := by
  have hj : Throwpoint.splitLinks (join Throwpoint.chainMark [link.display]) = [link] :=
    Throwpoint.splitLinks_join_display (List.cons_ne_nil link []) (by simpa using ⟨hl, hb⟩)
  have hp : Throwpoint.parse? (Throwpoint.functionMark ++ link.display) =
      some (.function [link]) := by
    rw [join, List.intercalate_singleton] at hj
    rw [Throwpoint.parse?_function, hj]
  have hf := (s.functionFrame_empty link).trans (resolveWord_of_lt hw)
  simp only [buildCanonical, hp, forEach]
  exact congrArg (fun frame => Except.ok (Stacktrace.mk [frame])) hf

end Link

section Absolute
variable {s : Session} {read : FileReader} {source : Text} {table : Source.Table}
  (hs : s.indexer = read.indexer) (hi : Source.index source = .ok table)
include hs hi

private theorem lineInFile_of_lookup {key file : Text} {d : Nat}
    (hread : read file = .ok (Utf8.encode source)) (hk : table.lookup key = some d) (n : Nat) :
    s.lineInFile (some file) key n = d + n := by
  have ht : (s.indexer file).table = table := by
    simp only [hs, FileReader.indexer, hread, Utf8.decodeLossy_encode, Indexing.table, hi]
  have hd : d ≠ 0 := Nat.ne_of_gt (Source.definition_of_lookup hi hk).1
  have ho : table.lineOf key = d := by rw [Source.Table.lineOf, hk, Option.getD_some]
  rw [lineInFile_some, ht, ho, if_neg hd]

/-- When a dump and a source tell the same text for a line of a function, the frame of that line
leads to the very line of the source, as long as the number of the line is a word. The line of the
definition spells the key in some way. -/
theorem buildCanonical_absolute_line {key live : Text} {d n : Nat} (hk : table.lookup key = some d)
    (hm : ¬ Name.localMark <+: key) (hdigits : isDigits key = false) (hr : Name.Runs key live)
    (hw : d + n < wordLimit) (hbound : d + n ≤ (lines source).length) {listing file : Text}
    (hdump : s.host.describe live = .ok listing)
    (hfile : (Dump.parse s.home listing).sourceFile = some file)
    (hread : read file = .ok (Utf8.encode source))
    (hline : (Dump.parse s.home listing).lineText? n = (lines source)[d + n - 1]?) (cache : Cache) :
    (∃ line name, (lines source)[d - 1]? = some line ∧
      Source.LineKind.classify line = .definition name ∧ Source.Spells name key) ∧
    ∃ frame, ((s.buildCanonical (Throwpoint.functionMark ++ Link.display ⟨live, n⟩)).run cache).value =
        .ok ⟨[frame]⟩ ∧
      frame.lnum = d + n ∧ frame.filename = file ∧
      (lines source)[frame.lnum - 1]? = some frame.line := by
  obtain ⟨hpos, first, name, hfirst, hclass, hname⟩ := Source.definition_of_lookup hi hk
  have hdot : '.' ∉ live := hr.dot_notMem (Source.notMem_of_key? hname (Or.inl rfl))
  have hchain : ¬ Throwpoint.chainMark <:+: live := fun h => hdot (h.subset (by decide))
  have hlnum := lineInFile_of_lookup hs hi hread hk n
  have hbelow : d + n - 1 < (lines source).length := by omega
  have hres : s.resolve ⟨live, n⟩ =
      ⟨live, n, (lines source)[d + n - 1], file, d + n,
        Frame.label live n ++ (lines source)[d + n - 1]⟩ := by
    simp only [resolve, hr.display_eq hdigits, hr.source_eq hm, hdump, hfile, hline, hlnum,
      List.getElem?_eq_getElem hbelow, Option.getD_some]
  refine ⟨⟨first, name, hfirst, hclass, (Source.spells_iff hname).2 hname⟩, s.resolve ⟨live, n⟩,
    s.buildCanonical_link (Nat.lt_of_le_of_lt (Nat.le_add_left n d) hw) hchain (hres ▸ hw) cache, ?_⟩
  rw [hres]
  exact ⟨rfl, rfl, List.getElem?_eq_getElem hbelow⟩

end Absolute

private def redefining : Text :=
  "function s:a_b()\nendfunction\n\" again\nfunction! <sId>a_b()\n  throw 1\nendfunction\n".toList

private def redefiningFile : FileReader := fun path =>
  if path = "p.vim".toList then .ok (Utf8.encode redefining) else .error .notFound

private def redefiningListing : Text :=
  "   function <SNR>12_a_b()\n\tLast set from p.vim line 4\n1    throw 1\n   endfunction".toList

private def redefiningSession : Session where
  host :=
    { evaluate expression := .error (.unavailable expression)
      describe name :=
        if name = "<SNR>12_a_b".toList then .ok redefiningListing
        else .error (.failed (Host.describeCall name) "no such function".toList)
      read := redefiningFile }
  indexer := redefiningFile.indexer
  chooser := none
  home := none

theorem buildCanonical_absolute_line_redefined :
    (∃ line name, (lines redefining)[3]? = some line ∧
      Source.LineKind.classify line = .definition name ∧ Source.Spells name "s:a_b".toList) ∧
    ∃ frame, ((redefiningSession.buildCanonical "function <SNR>12_a_b[1]".toList).run .empty).value =
        .ok ⟨[frame]⟩ ∧
      frame.lnum = 5 ∧ frame.filename = "p.vim".toList ∧
      (lines redefining)[frame.lnum - 1]? = some frame.line := by
  have hs : redefiningSession.indexer = redefiningFile.indexer := rfl
  have hi : Source.index redefining = .ok [("s:a_b".toList, 4)] := by decide +kernel
  have hk : List.lookup "s:a_b".toList [("s:a_b".toList, 4)] = some 4 := by decide
  have hd : isDigits "12".toList = true := by decide
  have hr : Name.Runs "s:a_b".toList "<SNR>12_a_b".toList := .scriptLocal "a_b".toList hd
  have hdump : redefiningSession.host.describe "<SNR>12_a_b".toList = .ok redefiningListing := by
    decide +kernel
  have hfile : (Dump.parse none redefiningListing).sourceFile = some "p.vim".toList := by
    decide +kernel
  have hread : redefiningFile "p.vim".toList = .ok (Utf8.encode redefining) := if_pos rfl
  have hbound : 4 + 1 ≤ (lines redefining).length := by decide +kernel
  have hline : (Dump.parse none redefiningListing).lineText? 1 = (lines redefining)[4 + 1 - 1]? := by
    decide +kernel
  have hc : Throwpoint.functionMark ++ Link.display ⟨"<SNR>12_a_b".toList, 1⟩ =
      "function <SNR>12_a_b[1]".toList := by
    decide +kernel
  have h := buildCanonical_absolute_line hs hi hk (by decide) (by decide) hr (by decide) hbound
    hdump hfile hread hline .empty
  rw [hc] at h
  exact h

end Session
end ScriptTrace
