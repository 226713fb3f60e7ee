import ScriptTrace.Proofs.Dump.Printout
import ScriptTrace.Proofs.Text.Runs

/-! The numbers that the lines of a dump are found by.
A number of three digits fills its columns, and digits of the text behind it are read with it. -/
namespace ScriptTrace.Dump
open Text

/-- The last line of a number is the one that counts. -/
theorem lineText?_eq_some_iff {dump : Dump} {n : Nat} {text : Text} :
    dump.lineText? n = some text ↔ ∃ before line after, dump.lines = before ++ line :: after ∧
      splitNumbered? line = some (n, text) ∧
      ∀ next ∈ after, ∀ other, splitNumbered? next ≠ some (n, other) := by
  have hp {line : Text} {number : Nat} {other : Text} :
      (splitNumbered? line).filter (·.1 == n) = some (number, other) ↔
        splitNumbered? line = some (n, other) ∧ number = n := by
    rw [Option.filter_eq_some_iff]
    constructor
    · rintro ⟨hs, hn⟩
      obtain rfl : number = n := by simpa using hn
      exact ⟨hs, rfl⟩
    · rintro ⟨hs, rfl⟩
      exact ⟨hs, by simp⟩
  rw [lineText?, List.filter_filterMap, Option.map_eq_some_iff]
  constructor
  · rintro ⟨⟨k, t⟩, hl, rfl⟩
    obtain ⟨found, hf⟩ := List.getLast?_eq_some_iff.1 hl
    obtain ⟨front, back, hb, -, hr⟩ := List.filterMap_eq_append_iff.1 hf
    obtain ⟨skipped, line, after, rfl, -, ht, hn⟩ := List.filterMap_eq_cons_iff.1 hr
    refine ⟨front ++ skipped, line, after, by rw [hb, List.append_assoc], (hp.1 ht).1, ?_⟩
    intro next hm other ho
    have hnone := List.filterMap_eq_nil_iff.1 hn next hm
    rw [hp.2 ⟨ho, rfl⟩] at hnone
    cases hnone
  · rintro ⟨before, line, after, hl, hs, ha⟩
    have hn : after.filterMap (fun line => (splitNumbered? line).filter (·.1 == n)) = [] := by
      refine List.filterMap_eq_nil_iff.2 fun next hm => ?_
      rw [Option.eq_none_iff_forall_ne_some]
      rintro ⟨k, other⟩ ho
      exact ha next hm other (hp.1 ho).1
    refine ⟨(n, text), ?_, rfl⟩
    rw [hl, List.filterMap_append, List.filterMap_cons, hp.2 ⟨hs, rfl⟩, hn]
    simp

section Reading
variable {line digits rest : Text}

private theorem splitNumbered?_eq_none (h : ∀ c ∈ line.head?, c.isDigit = false) :
    splitNumbered? line = none := by
  cases line with
  | nil => rfl
  | cons c rest =>
    have hc : c.isDigit = false := h c rfl
    simp [splitNumbered?, hc, bareNumber?, isDigits]

private theorem splitNumbered?_of_longestRun (h : LongestRun Char.isDigit line digits rest) :
    splitNumbered? line =
      (bareNumber? wordLimit digits).map fun number =>
        (number, rest.drop (min (numberColumns - digits.length)
          (rest.takeWhile (· == ' ')).length)) := by
  simp only [splitNumbered?, h.eq.1, h.eq.2]

private theorem drop_padding (k : Nat) (text : Text) :
    (List.replicate k ' ' ++ text).drop
      (min k ((List.replicate k ' ' ++ text).takeWhile (· == ' ')).length) = text := by
  rw [List.takeWhile_append_of_pos (by simp), List.length_append, List.length_replicate,
    Nat.min_eq_left (Nat.le_add_right k _), List.drop_left' List.length_replicate]

end Reading

/-- The number of a line fills its columns, and its text goes on with a digit. -/
def RunsOn (n : Nat) (text : Text) : Prop :=
  100 ≤ n ∧ ∃ c ∈ text.head?, c.isDigit = true

def joined (n : Nat) (text : Text) : Text :=
  if n < 100 then [] else text.takeWhile Char.isDigit

section Numbered
variable {n number : Nat} {text rest : Text}

private theorem length_decimal_lt_iff : (decimal n).length < numberColumns ↔ n < 100 :=
  Nat.lt_succ_iff.trans (Nat.length_toDigits_le_iff (by decide) (by decide))

private theorem joined_eq_nil (h : ¬ RunsOn n text) : joined n text = [] := by
  rw [joined]
  split
  · rfl
  · next hn =>
    cases text with
    | nil => rfl
    | cons c text =>
      exact List.takeWhile_cons_of_neg fun hc => h ⟨Nat.le_of_not_lt hn, c, rfl, hc⟩

private theorem longestRun_joined (text : Text) (h : 100 ≤ n) :
    LongestRun Char.isDigit text (joined n text) (text.drop (joined n text).length) := by
  have hr := LongestRun.takeWhile_dropWhile Char.isDigit text
  rw [joined, if_neg (Nat.not_lt_of_le h)]
  generalize text.takeWhile Char.isDigit = run, text.dropWhile Char.isDigit = rest at hr
  obtain rfl := hr.append
  rwa [List.drop_left]

private theorem joined_ne_nil (h : RunsOn n text) : joined n text ≠ [] := by
  obtain ⟨hn, c, hc, hd⟩ := h
  have hr := longestRun_joined text hn
  intro hj
  rw [hj] at hr
  rw [hr.stops c hc] at hd
  cases hd

/-- A number takes digits of the text with it when there is no space between them. -/
theorem splitNumbered?_numbered (n : Nat) (text : Text) :
    splitNumbered? (numbered n text) =
      (bareNumber? wordLimit (decimal n ++ joined n text)).map fun number =>
        (number, text.drop (joined n text).length) := by
  by_cases hn : n < 100
  · have hj : joined n text = [] := if_pos hn
    obtain ⟨k, hk⟩ : ∃ k, numberColumns - (decimal n).length = k + 1 :=
      Nat.exists_eq_add_one.2 (Nat.sub_pos_of_lt (length_decimal_lt_iff.2 hn))
    have hr : LongestRun Char.isDigit (numbered n text) (decimal n)
        (List.replicate (k + 1) ' ' ++ text) := by
      refine ⟨by rw [numbered, hk], fun _ => isDigit_of_mem_decimal, ?_⟩
      intro c hc
      cases hc
      decide
    rw [splitNumbered?_of_longestRun hr, hk, drop_padding, hj, List.append_nil]
    rfl
  · have hj := longestRun_joined text (Nat.le_of_not_lt hn)
    have hk : numberColumns - (decimal n).length = 0 := by
      have hl := mt length_decimal_lt_iff.1 hn
      omega
    have hr : LongestRun Char.isDigit (numbered n text) (decimal n ++ joined n text)
        (text.drop (joined n text).length) := by
      refine ⟨?_, ?_, hj.stops⟩
      · rw [List.append_assoc, ← hj.append, numbered, hk]
        rfl
      · intro c hc
        rcases List.mem_append.1 hc with hc | hc
        · exact isDigit_of_mem_decimal hc
        · exact hj.all c hc
    rw [splitNumbered?_of_longestRun hr, List.length_append, Nat.sub_add_eq, hk, Nat.zero_sub,
      Nat.zero_min]
    rfl

/-- A line is found by its own number, unless its text runs on and is cut by that. -/
theorem splitNumbered?_numbered_cases (h : splitNumbered? (numbered n text) = some (number, rest)) :
    (¬ RunsOn n text ∧ number = n ∧ rest = text) ∨
    (RunsOn n text ∧ n < number ∧ ∀ c ∈ rest.head?, c.isDigit = false) := by
  rw [splitNumbered?_numbered] at h
  obtain ⟨k, hb, he⟩ := Option.map_eq_some_iff.1 h
  obtain ⟨rfl, rfl⟩ := Prod.mk.inj he
  obtain ⟨-, rfl, -⟩ := bareNumber?_eq_some_iff.1 hb
  by_cases hr : RunsOn n text
  · have hpos : 0 < n := Nat.lt_of_lt_of_le (by decide) hr.1
    have hlt := lt_digitsValue_decimal_append hpos (joined_ne_nil hr)
    exact Or.inr ⟨hr, hlt, (longestRun_joined text hr.1).stops⟩
  · rw [joined_eq_nil hr, List.append_nil, digitsValue_decimal]
    exact Or.inl ⟨hr, rfl, rfl⟩

private theorem splitNumbered?_numbered_of_not_runsOn (hn : n < wordLimit) (h : ¬ RunsOn n text) :
    splitNumbered? (numbered n text) = some (n, text) := by
  rw [splitNumbered?_numbered, joined_eq_nil h, List.append_nil, bareNumber?_decimal hn]
  rfl

end Numbered

namespace Printout
variable {p : Printout} {n : Nat} {text : Text}

private theorem head?_of_mem_top (hb : ∀ c ∈ p.header.head?, isBlank c = true) {line : Text}
    (h : line ∈ p.top) : ∀ c ∈ line.head?, c.isDigit = false := by
  rcases List.mem_cons.1 h with rfl | h
  · exact fun c hc => isDigit_eq_false_of_isBlank (hb c hc)
  · obtain ⟨⟨indent, place, blank, _⟩, _, rfl⟩ := List.mem_map.1 h
    intro c hc
    cases indent with
    | nil =>
      cases hc
      decide
    | cons d indent =>
      cases hc
      exact isDigit_eq_false_of_isBlank (blank c List.mem_cons_self)

/-- No line before the body has a number when the header begins with white space. -/
theorem splitNumbered?_of_mem_top (hb : ∀ c ∈ p.header.head?, isBlank c = true) {line : Text}
    (h : line ∈ p.top.map dropReturn) : splitNumbered? line = none := by
  obtain ⟨whole, hw, rfl⟩ := List.mem_map.1 h
  obtain ⟨tail, ht⟩ := dropEnd_isPrefix ['\r'] whole
  refine splitNumbered?_eq_none fun c hc => head?_of_mem_top hb hw c ?_
  rw [← ht, List.head?_append, ← dropReturn, Option.mem_def.1 hc]
  rfl

section Dumped
variable (home : Option Text) (before after : Nat)

private theorem lineText?_write (hn : n < wordLimit) (ht : p.text? n = some text)
    (hr : ¬ RunsOn n text) : (parse home (p.write before after)).lineText? n = some text := by
  obtain ⟨front, back, hl, hg⟩ := bodyLines_eq_append ht
  refine lineText?_eq_some_iff.2 ⟨p.top.map dropReturn ++ front, numbered n text, back ++ [ending],
    ?_, splitNumbered?_numbered_of_not_runsOn hn hr, ?_⟩
  · rw [lines_parse_write, hl]
    simp
  · intro line hm other ho
    rcases List.mem_append.1 hm with hm | hm
    · obtain ⟨k, others, hk, rfl⟩ := hg line hm
      rcases splitNumbered?_numbered_cases ho with ⟨-, he, -⟩ | ⟨-, he, -⟩
      · omega
      · omega
    · obtain rfl := List.mem_singleton.1 hm
      cases ho

/-- What is found is the text of the line, or the rest of an earlier one that runs on. -/
theorem lineText?_write_cases (hb : ∀ c ∈ p.header.head?, isBlank c = true)
    (h : (parse home (p.write before after)).lineText? n = some text) :
    (p.text? n = some text ∧ ¬ RunsOn n text) ∨
    ((∃ k < n, ∃ whole, p.text? k = some whole ∧ RunsOn k whole) ∧
      ∀ c ∈ text.head?, c.isDigit = false) := by
  obtain ⟨front, line, back, hl, hs, -⟩ := lineText?_eq_some_iff.1 h
  have hm : line ∈ p.top.map dropReturn ++ p.bodyLines ++ [ending] := by
    rw [← lines_parse_write p home before after, hl]
    simp
  rw [List.mem_append, List.mem_append, List.mem_singleton] at hm
  rcases hm with (hm | hm) | rfl
  · rw [splitNumbered?_of_mem_top hb hm] at hs
    cases hs
  · obtain ⟨k, whole, ht, rfl⟩ := mem_bodyLines.1 hm
    rcases splitNumbered?_numbered_cases hs with ⟨hr, rfl, rfl⟩ | ⟨hr, hk, hh⟩
    · exact Or.inl ⟨ht, hr⟩
    · exact Or.inr ⟨⟨k, hk, whole, ht, hr⟩, hh⟩
  · cases hs

/-- A line of the body is found with its text exactly when the text does not run on from its number,
and every number finds its line and no other one exactly when no text does. -/
theorem lineText?_write_iff (hb : ∀ c ∈ p.header.head?, isBlank c = true) :
    (∀ n < wordLimit, ∀ text, p.text? n = some text →
      ((parse home (p.write before after)).lineText? n = some text ↔ ¬ RunsOn n text)) ∧
    ((∀ n < wordLimit, (parse home (p.write before after)).lineText? n = p.text? n) ↔
      ∀ n < wordLimit, ∀ text, p.text? n = some text → ¬ RunsOn n text) := by
  have hline : ∀ n < wordLimit, ∀ text, p.text? n = some text →
      ((parse home (p.write before after)).lineText? n = some text ↔ ¬ RunsOn n text) := by
    intro n hn text ht
    refine ⟨?_, lineText?_write home before after hn ht⟩
    rintro hf ⟨hle, c, hc, hd⟩
    rcases lineText?_write_cases home before after hb hf with ⟨-, hr⟩ | ⟨-, hh⟩
    · exact hr ⟨hle, c, hc, hd⟩
    · rw [hh c hc] at hd
      cases hd
  refine ⟨hline, ?_, ?_⟩
  · intro h n hn text ht
    exact (hline n hn text ht).1 ((h n hn).trans ht)
  · intro h n hn
    refine Option.ext fun text => ⟨?_, fun ht => (hline n hn text ht).2 (h n hn text ht)⟩
    intro hf
    rcases lineText?_write_cases home before after hb hf with ⟨ht, -⟩ | ⟨⟨k, hk, whole, ht, hr⟩, -⟩
    · exact ht
    · exact absurd hr (h k (hk.trans hn) whole ht)

end Dumped

private def indented : Printout where
  header := "   function F()\r".toList
  origin := some ⟨['\t'], "~/a line 7".toList, List.all_eq_true.1 (by decide), by decide⟩
  body := ["  1,$d".toList, "2".toList, []]
  header_ne_nil := by decide
  header_single := by decide
  body_closed := by decide

theorem lineText?_write_indented :
    indented.write 1 0 =
      "\n   function F()\r\n\tLast set from ~/a line 7\n1    1,$d\n2  2\n3  \n   endfunction".toList ∧
    (∀ c ∈ indented.header.head?, isBlank c = true) ∧
    ∀ n < wordLimit, (parse none (indented.write 1 0)).lineText? n = indented.text? n := by
  have hb : ∀ c ∈ indented.header.head?, isBlank c = true := by
    rintro c hc
    cases hc
    decide
  refine ⟨by decide +kernel, hb, (lineText?_write_iff none 1 0 hb).2.2 ?_⟩
  rintro n - text ht ⟨hn, -⟩
  have hl : indented.body.length = 3 := by decide
  have hs := (List.mem_zipIdx (text?_eq_some_iff.1 ht)).2.1
  omega

private def hundred : Printout where
  header := "   function F()".toList
  origin := none
  body := List.replicate 99 [] ++ ["1,$d".toList]
  header_ne_nil := by decide
  header_single := by decide
  body_closed := by decide

theorem lineText?_write_runs_on :
    (∀ c ∈ hundred.header.head?, isBlank c = true) ∧ hundred.text? 100 = some "1,$d".toList ∧
    (parse none (hundred.write 0 0)).lineText? 100 = none ∧
    (parse none (hundred.write 0 0)).lineText? 1001 = some ",$d".toList := by
  refine ⟨?_, by decide +kernel⟩
  rintro c hc
  cases hc
  decide

end Printout
end ScriptTrace.Dump
