import ScriptTrace.Command.Run
import ScriptTrace.Proofs.Command.Lines
import ScriptTrace.Proofs.Text.Numerals

/-! The answer of a prompt, told by the first line that decides.
A line before it is neither blank nor a number of 64 bits, and gets a remark and nothing else. -/
namespace ScriptTrace.Command
open Text

def typedLines (input : List (Option Text)) : List (Option Text) :=
  input.map (Option.map typed)

/-- A line that decides nothing: it is not blank, and it is no numeral of a number with 64 bits. -/
structure Undecided (line : Text) : Prop where
  not_blank : trim line ≠ []
  too_large (n : Int) : Numeral (trim line) n → n < -2 ^ 63 ∨ 2 ^ 63 ≤ n

/-- The lines begin with some that decide nothing, and then come others. -/
structure Begins (before : List Text) (rest lines : List (Option Text)) : Prop where
  lines_eq : lines = before.map some ++ rest
  undecided : ∀ line ∈ before, Undecided line

/-- What a prompt answers to some lines, and which ones it has passed over by then. -/
inductive Answers (lines : List (Option Text)) (before : List Text) :
    Except QueryError Int → Prop where
  | ended (h : Begins before [] lines) : Answers lines before (.ok 0)
  | blank {line : Text} {rest : List (Option Text)} (h : Begins before (some line :: rest) lines)
    (hb : trim line = []) : Answers lines before (.ok 0)
  | number {line : Text} {rest : List (Option Text)} {n : Int}
    (h : Begins before (some line :: rest) lines) (hs : Numeral (trim line) n) (hl : -2 ^ 63 ≤ n)
    (hu : n < 2 ^ 63) : Answers lines before (.ok n)
  | unreadable {rest : List (Option Text)} (h : Begins before (none :: rest) lines) :
    Answers lines before (.error (.failed Prompt.call FileError.notText.message))

def remark (line : Text) : Text :=
  asLine (yellow "not a number:".toList ++ [' '] ++ trim line)

section Lines
variable {line : Text}

/-- A line decides nothing when it has a word on it that is no number. -/
theorem undecided_iff : Undecided line ↔ trim line ≠ [] ∧ signed? (trim line) = none := by
  rw [Option.eq_none_iff_forall_ne_some]
  constructor
  · rintro ⟨hb, hl⟩
    refine ⟨hb, fun n hn => ?_⟩
    obtain ⟨hs, hn⟩ := signed?_eq_some_iff.1 hn
    have := hl n hs
    omega
  · rintro ⟨hb, hn⟩
    refine ⟨hb, fun n hs => ?_⟩
    by_contra hl
    exact hn n (signed?_eq_some_iff.2 ⟨hs, by omega⟩)

private theorem reply_of_blank (h : trim (typed line) = []) : Prompt.reply line = .answer 0 :=
  if_pos h

private theorem reply_of_number {n : Int} (h : signed? (trim (typed line)) = some n) :
    Prompt.reply line = .answer n := by
  have hb : trim (typed line) ≠ [] := by
    intro hb
    rw [hb] at h
    cases h
  simp only [Prompt.reply, if_neg hb, h]

private theorem reply_of_undecided (h : Undecided (typed line)) :
    Prompt.reply line = .again (remark (typed line)) := by
  obtain ⟨hb, hn⟩ := undecided_iff.1 h
  simp only [Prompt.reply, if_neg hb, hn, remark]

end Lines

section Reading
variable {before : List Text} {rest lines input : List (Option Text)} {line : Text}
  {answer : Except QueryError Int}

private theorem begins_nil (lines : List (Option Text)) : Begins [] lines lines :=
  ⟨rfl, nofun⟩

private theorem Begins.again (h : Begins before rest lines) (hu : Undecided line) :
    Begins (line :: before) rest (some line :: lines) where
  lines_eq := congrArg (some line :: ·) h.lines_eq
  undecided := List.forall_mem_cons.2 ⟨hu, h.undecided⟩

private theorem Answers.again (h : Answers lines before answer) (hu : Undecided line) :
    Answers (some line :: lines) (line :: before) answer := by
  cases h with
  | ended h => exact .ended (h.again hu)
  | blank h hb => exact .blank (h.again hu) hb
  | number h hs hl hu' => exact .number (h.again hu) hs hl hu'
  | unreadable h => exact .unreadable (h.again hu)

/-- There is always an answer, since every remark takes a line. -/
theorem exists_answers (lines : List (Option Text)) :
    ∃ before answer, Answers lines before answer := by
  induction lines with
  | nil => exact ⟨[], _, .ended (begins_nil _)⟩
  | cons first lines ih =>
    cases first with
    | none => exact ⟨[], _, .unreadable (begins_nil _)⟩
    | some line =>
      by_cases hb : trim line = []
      · exact ⟨[], _, .blank (begins_nil _) hb⟩
      · cases hn : signed? (trim line) with
        | some n =>
          obtain ⟨hs, hl, hu⟩ := signed?_eq_some_iff.1 hn
          exact ⟨[], _, .number (begins_nil _) hs hl hu⟩
        | none =>
          obtain ⟨before, answer, h⟩ := ih
          exact ⟨line :: before, answer, h.again (undecided_iff.2 ⟨hb, hn⟩)⟩

/-- A prompt goes past the lines that decide nothing, with a remark on each. -/
theorem Begins.read_eq (h : Begins before rest (typedLines input)) :
    ∃ more, typedLines more = rest ∧
      Prompt.read input =
        ⟨(Prompt.read more).answer, before.flatMap remark ++ (Prompt.read more).shown⟩ := by
  induction before generalizing input with
  | nil => exact ⟨input, h.lines_eq, rfl⟩
  | cons line before ih =>
    obtain ⟨first, more, rfl, hf, hm⟩ := List.map_eq_cons_iff.1 h.lines_eq
    obtain ⟨raw, rfl, rfl⟩ := Option.map_eq_some_iff.1 hf
    obtain ⟨hu, hrest⟩ := List.forall_mem_cons.1 h.undecided
    obtain ⟨more', he, hr⟩ := ih ⟨hm, hrest⟩
    refine ⟨more', he, ?_⟩
    simp only [Prompt.read, reply_of_undecided hu, hr, List.flatMap_cons, List.append_assoc]

/-- The first line that decides is the last one that a prompt reads. -/
theorem Begins.read_line (h : Begins before (some line :: rest) (typedLines input)) {number : Int}
    (hr : ∀ raw, typed raw = line → Prompt.reply raw = .answer number) :
    Prompt.read input = ⟨.ok number, before.flatMap remark⟩ := by
  obtain ⟨more, hm, he⟩ := h.read_eq
  obtain ⟨first, rest, rfl, hf, -⟩ := List.map_eq_cons_iff.1 hm
  obtain ⟨raw, rfl, hl⟩ := Option.map_eq_some_iff.1 hf
  simpa only [Prompt.read, hr raw hl, List.append_nil] using he

/-- The prompt stops at the first line that decides, after a remark on each line before it. -/
theorem Answers.read_eq (h : Answers (typedLines input) before answer) :
    Prompt.read input = ⟨answer, before.flatMap remark⟩ := by
  cases h with
  | ended h =>
    obtain ⟨more, hm, he⟩ := h.read_eq
    obtain rfl := List.map_eq_nil_iff.1 hm
    simpa only [Prompt.read, List.append_nil] using he
  | blank h hb =>
    refine h.read_line fun raw hr => ?_
    subst hr
    exact reply_of_blank hb
  | number h hs hl hu =>
    refine h.read_line fun raw hr => ?_
    subst hr
    exact reply_of_number (signed?_eq_some_iff.2 ⟨hs, hl, hu⟩)
  | unreadable h =>
    obtain ⟨more, hm, he⟩ := h.read_eq
    obtain ⟨first, rest, rfl, hf, -⟩ := List.map_eq_cons_iff.1 hm
    obtain rfl := Option.map_eq_none_iff.1 hf
    simpa only [Prompt.read, List.append_nil] using he

end Reading

section Typing

/-- The characters of the clusters are those of the text. -/
theorem flatten_clustersFrom (k : Cluster) (s : Text) : (clustersFrom k s).flatten = s := by
  induction s generalizing k with
  | nil => rfl
  | cons c s ih =>
    have hs := ih (k.next c)
    rw [clustersFrom]
    cases hc : clustersFrom (k.next c) s with
    | nil => rw [← hs, hc]; rfl
    | cons first rest =>
      rw [hc] at hs
      cases k.takes c <;> simp [← hs]

private theorem flatten_clusters (s : Text) : (clusters s).flatten = s := by
  cases s with
  | nil => rfl
  | cons c s =>
    have hs := flatten_clustersFrom (.start c) s
    rw [clusters]
    cases hc : clustersFrom (.start c) s with
    | nil => rw [← hs, hc]; rfl
    | cons first rest =>
      rw [hc] at hs
      simp [← hs]

private theorem shown_foldl_press {parts : List Text} (h : '\x08' ∉ parts.flatten) (t : Typed) :
    (parts.foldl Typed.press t).shown = parts.flatten.reverse ++ t.shown := by
  induction parts generalizing t with
  | nil => rfl
  | cons part parts ih =>
    rw [List.flatten_cons, List.mem_append, not_or] at h
    have hp : part ≠ ['\x08'] := by
      rintro rfl
      exact h.1 List.mem_cons_self
    rw [List.foldl_cons, ih h.2, Typed.press, if_neg hp, List.flatten_cons, List.reverse_append,
      List.append_assoc]

private theorem typed_of_notMem {line : Text} (h : '\x08' ∉ line) : typed line = line := by
  rw [typed, shown_foldl_press (by rwa [flatten_clusters]), flatten_clusters, Typed.empty,
    List.append_nil, List.reverse_reverse]

/-- A reader of lines gives the lines of a text in which nothing is taken back. -/
theorem typedLines_encode {s : Text} (h : '\x08' ∉ s) :
    typedLines (inputLines (Utf8.encode s)) = (lines s).map some := by
  rw [inputLines_encode, typedLines, List.map_map]
  refine List.map_congr_left fun line hl => ?_
  have hn : '\x08' ∉ line := fun hc => h (mem_of_mem_lines hl hc)
  exact congrArg some (typed_of_notMem hn)

end Typing

end ScriptTrace.Command
