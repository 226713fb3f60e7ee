import ScriptTrace.Proofs.Source.Characters
import ScriptTrace.Proofs.Text.Runs
import ScriptTrace.Source.Line

/-! The grammar of the lines that open and close a definition, told in characters.
A line is read by its bytes, but it is cut between characters only, and so what is read of it is what
the grammar says of its characters. -/
namespace ScriptTrace.Source
open Text

namespace LineKind

section Grammar

def isGapChar (c : Char) : Bool := c = ' ' || c = '\t'

def isIndentChar (c : Char) : Bool := isGapChar c || c = ':'

def endsNameChar (c : Char) : Bool := c = '(' || isGapChar c

/-- The line has this word for a command, which may be empty, and this rest behind it. -/
def Commands (line word rest : Text) : Prop :=
  ∃ indent tail, LongestRun isIndentChar line indent tail ∧ LongestRun Char.isAlpha tail word rest

/-- The word is a command with at least `least` of its letters. -/
def ShortFor (word command : Text) (least : Nat) : Prop :=
  word <+: command ∧ least ≤ word.length

/-- What stands behind the command of a definition: perhaps a bang, gaps, the name up to the next gap
or parenthesis, gaps again, and a parenthesis. A bang at the beginning is never one of the name. -/
inductive Defines (name : Text) : Text → Prop
  | intro {bang gap gap' args rest : Text}
      (hr : rest = bang ++ (gap ++ (name ++ (gap' ++ '(' :: args))))
      (hb : bang = ['!'] ∨ bang = [] ∧ rest.head? ≠ some '!')
      (hg : ∀ c ∈ gap, isGapChar c = true) (hg' : ∀ c ∈ gap', isGapChar c = true)
      (hne : name ≠ []) (hn : ∀ c ∈ name, endsNameChar c = false) : Defines name rest

def Closes (line : Text) : Prop :=
  ∃ word rest, Commands line word rest ∧ ShortFor word closeCommand 4

def Opens (line name : Text) : Prop :=
  ∃ word rest, Commands line word rest ∧ ShortFor word openCommand 2 ∧ Defines name rest

/-- What a line is by its characters. -/
inductive HasKind (line : Text) : LineKind → Prop
  | closing (hc : Closes line) : HasKind line .closing
  | definition {name : Text} (ho : Opens line name) : HasKind line (.definition name)
  | other (hc : ¬ Closes line) (ho : ∀ name, ¬ Opens line name) : HasKind line .other

end Grammar

section Classes
open Utf8

private theorem agrees_isGap : Agrees Cursor.isGap isGapChar :=
  (agrees_byte (c := ' ') (by decide)).or (agrees_byte (c := '\t') (by decide))

private theorem agrees_isIndent : Agrees isIndent isIndentChar :=
  agrees_isGap.or (agrees_byte (c := ':') (by decide))

private theorem agrees_endsName : Agrees endsName endsNameChar :=
  (agrees_byte (c := '(') (by decide)).or agrees_isGap

private theorem agrees_isLetter : Agrees Cursor.isLetter Char.isAlpha := by
  refine agrees_of_toNat (r := fun n => (0x41 ≤ n && n ≤ 0x5A) || (0x61 ≤ n && n ≤ 0x7A)) ?_ ?_ ?_
  · intro n hn
    simp
    omega
  · intro b
    simp [Cursor.isLetter, UInt8.le_iff_toNat_le]
  · intro c
    delta Char.isAlpha Char.isUpper Char.isLower
    rw [Bool.decide_and]
    rfl

end Classes

section Places

def commandStart (line : Text) : Cursor :=
  ((Cursor.ofText line).skipWhile isIndent).2

def commandEnd (line : Text) : Cursor :=
  ((commandStart line).skipWhile Cursor.isLetter).2

def nameStart (c : Cursor) : Cursor :=
  (c.accept 0x21).2.skipGaps.2

def nameEnd (c : Cursor) : Cursor :=
  ((nameStart c).skipWhile fun b => !endsName b).2

private theorem definition?_eq (c : Cursor) :
    definition? c =
      let name := (nameEnd c).sliceFrom (nameStart c).pos
      if name.isEmpty || !((nameEnd c).skipGaps.2.accept 0x28).1 then none else some name := rfl

private theorem classify_eq (line : Text) :
    classify line =
      let word := (commandEnd line).sliceFrom (commandStart line).pos
      if (commandStart line).atEnd || (commandStart line).peek == some 0x22 ||
          (commandStart line).peek == some 0x5C then .other
      else if isShortFor word closeCommand 4 then .closing
      else if isShortFor word openCommand 2 then
        match definition? (commandEnd line) with
        | some name => .definition name
        | none => .other
      else .other := rfl

end Places

section Reading
open Cursor Utf8

private theorem exists_commands (line : Text) : ∃ word rest, Commands line word rest :=
  ⟨_, _, _, _, LongestRun.takeWhile_dropWhile _ _, LongestRun.takeWhile_dropWhile _ _⟩

private theorem between_of_commands {line word rest : Text} (h : Commands line word rest) :
    ∃ indent, commandStart line = between indent (word ++ rest) ∧
      commandEnd line = between (indent ++ word) rest := by
  obtain ⟨indent, tail, hi, hw⟩ := h
  have hs : commandStart line = between indent tail := by
    rw [commandStart, ofText_eq_between, skipWhile_between agrees_isIndent, hi.eq.1, hi.eq.2]
    rfl
  have he : commandEnd line = between (indent ++ word) rest := by
    rw [commandEnd, hs, skipWhile_between agrees_isLetter, hw.eq.1, hw.eq.2]
  exact ⟨indent, hw.append ▸ hs, he⟩

/-- What stands behind a command, cut where a name would begin and end. -/
structure HeadParts (rest bang gap name gap' last : Text) : Prop where
  bang_eq : bang = ['!'] ∨ bang = [] ∧ rest.head? ≠ some '!'
  append : rest = bang ++ (gap ++ (name ++ (gap' ++ last)))
  gap_run : LongestRun isGapChar (gap ++ (name ++ (gap' ++ last))) gap (name ++ (gap' ++ last))
  name_run : LongestRun (fun c => !endsNameChar c) (name ++ (gap' ++ last)) name (gap' ++ last)
  gap_run' : LongestRun isGapChar (gap' ++ last) gap' last

private theorem exists_headParts (rest : Text) :
    ∃ bang gap name gap' last, HeadParts rest bang gap name gap' last := by
  have hcut : ∃ bang more, (bang = ['!'] ∨ bang = [] ∧ rest.head? ≠ some '!') ∧
      rest = bang ++ more := by
    by_cases hb : rest.head? = some '!'
    · obtain ⟨more, rfl⟩ := List.head?_eq_some_iff.1 hb
      exact ⟨['!'], more, Or.inl rfl, rfl⟩
    · exact ⟨[], rest, Or.inr ⟨rfl, hb⟩, rfl⟩
  obtain ⟨bang, more, hb, rfl⟩ := hcut
  have hg := LongestRun.takeWhile_dropWhile isGapChar more
  generalize more.takeWhile isGapChar = gap, more.dropWhile isGapChar = named at hg
  have hn := LongestRun.takeWhile_dropWhile (fun c => !endsNameChar c) named
  generalize named.takeWhile _ = name, named.dropWhile _ = behind at hn
  have hg' := LongestRun.takeWhile_dropWhile isGapChar behind
  generalize behind.takeWhile isGapChar = gap', behind.dropWhile isGapChar = last at hg'
  obtain rfl := hg'.append
  obtain rfl := hn.append
  obtain rfl := hg.append
  exact ⟨bang, gap, name, gap', last, hb, rfl, hg, hn, hg'⟩

section Parts
variable {rest bang gap name gap' last : Text} (h : HeadParts rest bang gap name gap' last)
include h

private theorem nameStart_of_headParts (before : Text) :
    nameStart (between before rest) = between (before ++ bang ++ gap) (name ++ (gap' ++ last)) := by
  have hbang : ((between before rest).accept 0x21).2 =
      between (before ++ bang) (gap ++ (name ++ (gap' ++ last))) := by
    rcases h.bang_eq with hb | ⟨hb, hr⟩
    · rw [h.append, hb]
      exact congrArg Prod.snd (accept_between_of_head? (c := '!') (by decide) before _)
    · have hrest := h.append
      rw [hb, List.nil_append] at hrest
      rw [hb, List.append_nil, ← hrest]
      exact congrArg Prod.snd (accept_between_of_ne (c := '!') (by decide) hr)
  rw [nameStart, hbang, skipGaps, skipWhile_between agrees_isGap, h.gap_run.eq.1, h.gap_run.eq.2]

private theorem nameEnd_of_headParts (before : Text) :
    nameEnd (between before rest) = between (before ++ bang ++ gap ++ name) (gap' ++ last) := by
  rw [nameEnd, nameStart_of_headParts h, skipWhile_between agrees_endsName.not, h.name_run.eq.1,
    h.name_run.eq.2]

private theorem definition?_of_headParts (before : Text) :
    definition? (between before rest) =
      if name ≠ [] ∧ last.head? = some '(' then some name else none := by
  have hs : (nameEnd (between before rest)).sliceFrom (nameStart (between before rest)).pos =
      name := by
    rw [nameStart_of_headParts h, nameEnd_of_headParts h, sliceFrom_eq, bytesFrom_between,
      decode?_encode, Option.getD_some]
  have ha : ((nameEnd (between before rest)).skipGaps.2.accept 0x28).1 =
      decide (last.head? = some '(') := by
    rw [nameEnd_of_headParts h, skipGaps, skipWhile_between agrees_isGap, h.gap_run'.eq.1,
      h.gap_run'.eq.2]
    exact accept_between_fst (c := '(') (by decide) _ last
  rw [definition?_eq, hs, ha]
  by_cases hn : name = []
  · simp [hn]
  · by_cases hl : last.head? = some '(' <;> simp [hn, hl]

end Parts

/-- The name has no gap, so the gaps around it are as long as they can be, and so is the name. -/
theorem Defines.exists_headParts {name rest : Text} (h : Defines name rest) :
    name ≠ [] ∧ ∃ bang gap gap' args, HeadParts rest bang gap name gap' ('(' :: args) := by
  obtain @⟨bang, gap, gap', args, rest, hr, hb, hg, hg', hne, hn⟩ := h
  have hopen (c : Char) (hc : ('(' :: args).head? = some c) : c = '(' := (Option.some.inj hc).symm
  refine ⟨hne, bang, gap, gap', args, hb, hr, ⟨rfl, hg, ?_⟩, ⟨rfl, ?_, ?_⟩, ⟨rfl, hg', ?_⟩⟩
  · intro c hc
    obtain ⟨d, tail, rfl⟩ := List.exists_cons_of_ne_nil hne
    obtain rfl : d = c := Option.some.inj hc
    have he := hn d List.mem_cons_self
    rw [endsNameChar, Bool.or_eq_false_iff] at he
    exact he.2
  · intro c hc
    rw [hn c hc]
    rfl
  · intro c hc
    have he : endsNameChar c = true := by
      cases gap' with
      | nil =>
        rw [hopen c hc]
        rfl
      | cons d tail =>
        obtain rfl : d = c := Option.some.inj hc
        rw [endsNameChar, hg' d List.mem_cons_self, Bool.or_true]
    rw [he]
    rfl
  · intro c hc
    rw [hopen c hc]
    rfl

/-- A name is read behind a command just when the rest of the line has the shape of a definition. -/
theorem definition?_eq_some_iff {name rest : Text} (before : Text) :
    definition? (between before rest) = some name ↔ Defines name rest := by
  constructor
  · intro h
    obtain ⟨bang, gap, w, gap', last, hp⟩ := exists_headParts rest
    rw [definition?_of_headParts hp, Option.ite_none_right_eq_some] at h
    obtain ⟨⟨hne, hl⟩, he⟩ := h
    cases he
    obtain ⟨args, rfl⟩ := List.head?_eq_some_iff.1 hl
    have hn (c : Char) (hc : c ∈ name) : endsNameChar c = false := by
      simpa using hp.name_run.all c hc
    exact .intro hp.append hp.bang_eq hp.gap_run.all hp.gap_run'.all hne hn
  · intro h
    obtain ⟨hne, bang, gap, gap', args, hp⟩ := h.exists_headParts
    rw [definition?_of_headParts hp, if_pos ⟨hne, rfl⟩]

/-- A shorter form is a prefix that has letters enough. -/
theorem isShortFor_iff {word command : Text} {least : Nat} :
    isShortFor word command least = true ↔ ShortFor word command least := by
  rw [isShortFor, Bool.and_eq_true, decide_eq_true_eq, List.isPrefixOf_iff_prefix, and_comm]
  rfl

private theorem not_shortFor_both {word : Text} (h : ShortFor word openCommand 2) :
    ¬ ShortFor word closeCommand 4 := by
  rintro ⟨hc, -⟩
  obtain ⟨ho, hl⟩ := h
  obtain ⟨c, tail, rfl⟩ := List.exists_cons_of_length_pos (Nat.lt_of_lt_of_le Nat.zero_lt_two hl)
  have ho' : c = 'f' := (List.cons_prefix_cons.1 ho).1
  have hc' : c = 'e' := (List.cons_prefix_cons.1 hc).1
  exact absurd (ho'.symm.trans hc') (by decide)

private theorem word_eq_nil_of_skip {line word rest indent : Text} (h : Commands line word rest)
    (hs : commandStart line = between indent (word ++ rest))
    (he : ((commandStart line).atEnd || (commandStart line).peek == some 0x22 ||
      (commandStart line).peek == some 0x5C) = true) : word = [] := by
  obtain ⟨_, tail, _, hw⟩ := h
  cases word with
  | nil => rfl
  | cons c word =>
    have hc : c.isAlpha = true := hw.all c List.mem_cons_self
    have hpeek {d : Char} (hd : d.toNat < 0x80) (ha : d.isAlpha = false) :
        (commandStart line).peek ≠ some (UInt8.ofNat d.toNat) := by
      rw [hs]
      intro hp
      obtain rfl : c = d := Option.some.inj ((peek_between_eq_iff hd).1 hp)
      exact absurd (hc.symm.trans ha) (by decide)
    rw [Bool.or_eq_true, Bool.or_eq_true, beq_iff_eq, beq_iff_eq] at he
    rcases he with (he | he) | he
    · rw [hs, List.cons_append, atEnd_between_cons] at he
      cases he
    · exact absurd he (hpeek (d := '"') (by decide) (by decide))
    · exact absurd he (hpeek (d := '\\') (by decide) (by decide))

private theorem classify_of_commands {line word rest : Text} (h : Commands line word rest) :
    ∃ before, classify line =
      if isShortFor word closeCommand 4 then .closing
      else if isShortFor word openCommand 2 then
        match definition? (between before rest) with
        | some name => .definition name
        | none => .other
      else .other := by
  obtain ⟨indent, hs, he⟩ := between_of_commands h
  have hw : (commandEnd line).sliceFrom (commandStart line).pos = word := by
    rw [he, hs, sliceFrom_eq, bytesFrom_between, decode?_encode, Option.getD_some]
  refine ⟨indent ++ word, ?_⟩
  rw [classify_eq, hw, ← he]
  dsimp only
  split
  · next hskip =>
    rw [word_eq_nil_of_skip h hs hskip]
    rfl
  · rfl

end Reading

section Kinds
variable {line word rest name : Text}

/-- A line has one command and one rest. -/
theorem Commands.eq {word' rest' : Text} (h : Commands line word rest)
    (h' : Commands line word' rest') : word = word' ∧ rest = rest' := by
  obtain ⟨indent, tail, hi, hw⟩ := h
  obtain ⟨indent', tail', hi', hw'⟩ := h'
  obtain rfl : tail = tail' := hi.eq.2.symm.trans hi'.eq.2
  exact ⟨hw.eq.1.symm.trans hw'.eq.1, hw.eq.2.symm.trans hw'.eq.2⟩

private theorem Commands.closes_iff (h : Commands line word rest) :
    Closes line ↔ ShortFor word closeCommand 4 := by
  constructor
  · rintro ⟨word', rest', h', hs⟩
    rwa [(h.eq h').1]
  · intro hs
    exact ⟨word, rest, h, hs⟩

private theorem Commands.opens_iff (h : Commands line word rest) :
    Opens line name ↔ ShortFor word openCommand 2 ∧ Defines name rest := by
  constructor
  · rintro ⟨word', rest', h', hs, hd⟩
    obtain ⟨rfl, rfl⟩ := h.eq h'
    exact ⟨hs, hd⟩
  · rintro ⟨hs, hd⟩
    exact ⟨word, rest, h, hs, hd⟩

theorem exists_hasKind (line : Text) : ∃ kind, HasKind line kind := by
  by_cases hc : Closes line
  · exact ⟨_, .closing hc⟩
  · by_cases ho : ∃ name, Opens line name
    · obtain ⟨name, ho⟩ := ho
      exact ⟨_, .definition ho⟩
    · exact ⟨_, .other hc (not_exists.1 ho)⟩

theorem HasKind.classify_eq {kind : LineKind} (h : HasKind line kind) : classify line = kind := by
  obtain ⟨word, rest, hw⟩ := exists_commands line
  obtain ⟨before, he⟩ := classify_of_commands hw
  rw [he]
  cases h with
  | closing hc => rw [if_pos (isShortFor_iff.2 (hw.closes_iff.1 hc))]
  | definition ho =>
    obtain ⟨hs, hd⟩ := hw.opens_iff.1 ho
    rw [if_neg (mt isShortFor_iff.1 (not_shortFor_both hs)), if_pos (isShortFor_iff.2 hs),
      (definition?_eq_some_iff before).2 hd]
  | other hc ho =>
    rw [if_neg (mt isShortFor_iff.1 (mt hw.closes_iff.2 hc))]
    split
    · next hs =>
      cases hd : definition? (Cursor.between before rest) with
      | none => rfl
      | some name =>
        have hopen := hw.opens_iff.2 ⟨isShortFor_iff.1 hs, (definition?_eq_some_iff before).1 hd⟩
        exact absurd hopen (ho name)
    · rfl

/-- The kind that is read is the only one that the grammar gives. -/
theorem classify_eq_iff {kind : LineKind} : classify line = kind ↔ HasKind line kind := by
  constructor
  · rintro rfl
    obtain ⟨kind, hk⟩ := exists_hasKind line
    rwa [hk.classify_eq]
  · exact HasKind.classify_eq

end Kinds

/-- A line is what the grammar of its characters says. The bytes that are read as its command and as
its name are those of whole characters, and so they are never given up as unreadable. -/
theorem classify_grammar (line : Text) :
    (∀ kind, classify line = kind ↔ HasKind line kind) ∧
    ∃ word rest, Commands line word rest ∧
      Utf8.decode? ((commandEnd line).bytesFrom (commandStart line).pos) = some word ∧
      ∃ name, Utf8.decode? ((nameEnd (commandEnd line)).bytesFrom
        (nameStart (commandEnd line)).pos) = some name ∧ ∀ w, Opens line w → w = name := by
  obtain ⟨word, rest, h⟩ := exists_commands line
  obtain ⟨indent, hs, he⟩ := between_of_commands h
  obtain ⟨bang, gap, name, gap', last, hp⟩ := exists_headParts rest
  refine ⟨fun _ => classify_eq_iff, word, rest, h, ?_, name, ?_, ?_⟩
  · rw [he, hs, Cursor.bytesFrom_between, Utf8.decode?_encode]
  · rw [he, nameStart_of_headParts hp, nameEnd_of_headParts hp, Cursor.bytesFrom_between,
      Utf8.decode?_encode]
  · intro w hw
    have hd := (definition?_eq_some_iff indent).2 (h.opens_iff.1 hw).2
    rw [definition?_of_headParts hp, Option.ite_none_right_eq_some] at hd
    exact (Option.some.inj hd.2).symm

example : classify "\t: fun! <SID>é[1](a)".toList = .definition "<SID>é[1]".toList := by
  decide +kernel

end LineKind
end ScriptTrace.Source
