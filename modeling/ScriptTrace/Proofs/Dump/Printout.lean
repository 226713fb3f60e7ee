import ScriptTrace.Dump
import ScriptTrace.Proofs.Text.Lines

/-! Functions as the editor prints them, and the lines that a dump of them has.
A printout may have line feeds around it, and its first lines may end in carriage returns. -/
namespace ScriptTrace.Dump
open Text

/-- Where a function was defined. -/
structure Origin where
  indent : Text
  /-- The source file, perhaps with a line in it. -/
  place : Text
  blank : ∀ c ∈ indent, isBlank c = true
  single : '\n' ∉ indent ++ place

namespace Origin

def line (origin : Origin) : Text :=
  origin.indent ++ (sourceMark ++ origin.place)

theorem line_ne_nil (origin : Origin) : origin.line ≠ [] := by
  have hm : sourceMark ≠ [] := by decide
  simp [line, hm]

theorem notMem_line (origin : Origin) : '\n' ∉ origin.line := by
  have hs := origin.single
  rw [List.mem_append, not_or] at hs
  have hm : '\n' ∉ sourceMark := by decide
  simp [line, hs.1, hs.2, hm]

end Origin

/-- A text behind its number, which is filled up with spaces to its columns. -/
def numbered (n : Nat) (text : Text) : Text :=
  decimal n ++ (List.replicate (numberColumns - (decimal n).length) ' ' ++ text)

def ending : Text := "   endfunction".toList

/-- A function that the editor prints. -/
structure Printout where
  header : Text
  /-- None for a function from the command line. -/
  origin : Option Origin
  body : List Text
  header_ne_nil : header ≠ []
  header_single : '\n' ∉ header
  body_closed : ∀ text ∈ body, '\n' ∉ text ∧ text.getLast? ≠ some '\r'

/-- Line feeds around a text are no lines of it. Its last line keeps a carriage return. -/
theorem lines_trimFeeds_join (front : List Text) {last : Text} (hf : ∀ line ∈ front, '\n' ∉ line)
    (hl : '\n' ∉ last) (hh : ∀ line ∈ front.head?, line ≠ []) (hne : last ≠ [])
    (before after : Nat) :
    Text.lines (trimFeeds (List.replicate before '\n' ++
      (join ['\n'] (front ++ [last]) ++ List.replicate after '\n'))) =
      front.map dropReturn ++ [last] := by
  have hp : ∀ line ∈ front ++ [last], '\n' ∉ line := by simpa [or_imp, forall_and] using ⟨hf, hl⟩
  have hs : (join ['\n'] (front ++ [last])).splitOn '\n' = front ++ [last] :=
    List.splitOn_intercalate '\n' hp (List.concat_ne_nil last front)
  rw [trimFeeds_replicate, Text.lines, hs, closeLines_concat, closeLines, if_neg hne]
  · intro c hc
    rw [join_concat] at hc
    cases front with
    | nil => exact fun he => hl (he ▸ List.mem_of_head? hc)
    | cons line front =>
      obtain ⟨d, rest, rfl⟩ := List.exists_cons_of_ne_nil (hh line rfl)
      cases hc
      exact fun he => hf _ List.mem_cons_self (he ▸ List.mem_cons_self)
  · intro c hc
    rw [join_concat, List.getLast?_append, List.getLast?_eq_some_getLast hne] at hc
    cases hc
    exact fun he => hl (he ▸ List.getLast_mem hne)

namespace Printout
variable (p : Printout)

def top : List Text :=
  p.header :: p.origin.toList.map Origin.line

def bodyLines : List Text :=
  (p.body.zipIdx 1).map fun part => numbered part.2 part.1

def write (before after : Nat) : Text :=
  List.replicate before '\n' ++
    (join ['\n'] (p.top ++ p.bodyLines ++ [ending]) ++ List.replicate after '\n')

def text? : Nat → Option Text
  | 0 => none
  | n + 1 => p.body[n]?

variable {p} {n : Nat} {line text : Text}

/-- The lines of a body are numbered from one. -/
theorem text?_eq_some_iff : p.text? n = some text ↔ (text, n) ∈ p.body.zipIdx 1 := by
  rw [List.mk_mem_zipIdx_iff_le_and_getElem?_sub]
  cases n <;> simp [text?]

theorem mem_bodyLines :
    line ∈ p.bodyLines ↔ ∃ n text, p.text? n = some text ∧ numbered n text = line := by
  simp only [bodyLines, List.mem_map, Prod.exists, text?_eq_some_iff]
  exact exists_comm

/-- Behind a line of the body there are only lines with greater numbers. -/
theorem bodyLines_eq_append (h : p.text? n = some text) :
    ∃ before after, p.bodyLines = before ++ numbered n text :: after ∧
      ∀ line ∈ after, ∃ k other, n < k ∧ line = numbered k other := by
  rw [text?_eq_some_iff] at h
  obtain ⟨before, after, hs⟩ := List.append_of_mem h
  have hp : (p.body.zipIdx 1).Pairwise fun a b => a.2 < b.2 :=
    List.pairwise_map.1 (by
      rw [List.zipIdx_map_snd]
      exact List.pairwise_lt_range')
  rw [hs, List.pairwise_append, List.pairwise_cons] at hp
  refine ⟨before.map fun part => numbered part.2 part.1,
    after.map fun part => numbered part.2 part.1, by simp [bodyLines, hs], ?_⟩
  intro line hl
  obtain ⟨part, hm, rfl⟩ := List.mem_map.1 hl
  exact ⟨part.2, part.1, hp.2.1.1 part hm, rfl⟩

private theorem notMem_of_mem_top (h : line ∈ p.top) : '\n' ∉ line := by
  rcases List.mem_cons.1 h with rfl | h
  · exact p.header_single
  · obtain ⟨origin, _, rfl⟩ := List.mem_map.1 h
    exact origin.notMem_line

private theorem closed_of_mem_bodyLines (h : line ∈ p.bodyLines) :
    '\n' ∉ line ∧ line.getLast? ≠ some '\r' := by
  obtain ⟨n, text, ht, rfl⟩ := mem_bodyLines.1 h
  obtain ⟨hf, hr⟩ := p.body_closed text (List.fst_mem_of_mem_zipIdx (text?_eq_some_iff.1 ht))
  have hd {c : Char} (hc : c.isDigit = false) : c ∉ decimal n :=
    notMem_of_isDigits (isDigits_decimal n) hc
  constructor
  · simp [numbered, hd (c := '\n') (by decide), hf]
  · cases hl : text.getLast? with
    | none =>
      intro hc
      have hm : '\r' ∈ numbered n text := List.mem_of_getLast? hc
      simp [numbered, hd (c := '\r') (by decide), List.getLast?_eq_none_iff.1 hl] at hm
    | some c => simpa [numbered, hl] using hr

/-- A dump of a printout has its lines, the first ones without a carriage return at their ends. -/
theorem lines_parse_write (p : Printout) (home : Option Text) (before after : Nat) :
    (parse home (p.write before after)).lines =
      p.top.map dropReturn ++ p.bodyLines ++ [ending] := by
  have hbody : p.bodyLines.map dropReturn = p.bodyLines :=
    (List.map_congr_left fun line hl =>
      dropReturn_of_getLast?_ne (closed_of_mem_bodyLines hl).2).trans (List.map_id _)
  have hs : ∀ line ∈ p.top ++ p.bodyLines, '\n' ∉ line := by
    intro line hl
    rcases List.mem_append.1 hl with hl | hl
    · exact notMem_of_mem_top hl
    · exact (closed_of_mem_bodyLines hl).1
  have hh : ∀ line ∈ (p.top ++ p.bodyLines).head?, line ≠ [] := by
    rintro line hl
    cases hl
    exact p.header_ne_nil
  rw [parse, write, lines_trimFeeds_join _ hs (by decide) hh (by decide), List.map_append, hbody]

end Printout
end ScriptTrace.Dump
