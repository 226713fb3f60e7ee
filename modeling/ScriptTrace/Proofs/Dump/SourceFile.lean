import ScriptTrace.Proofs.Dump.Printout
import ScriptTrace.Proofs.Text.Marks

/-! The source file of a dump, read back from the line below the header.
A line number that the editor puts behind the path is cut off, and nothing of the path is. A body
names no file. -/
namespace ScriptTrace.Dump
open Text

section Place
variable {path digits : Text}

def EndsInLine (path : Text) : Prop :=
  ∃ front digits, isDigits digits = true ∧ path = front ++ (lineMark ++ digits)

/-- A path may have marks itself: the one that counts stands in front of the digits. -/
theorem stripLine_append (hd : isDigits digits = true) :
    stripLine (path ++ (lineMark ++ digits)) = path := by
  have hs : ' ' ∉ digits := notMem_of_isDigits hd (by decide)
  -- a mark has two spaces, and behind the first space of this one there is only one
  have hm : ¬ lineMark <:+: (lineMark ++ digits).tail := by
    intro h
    have hc : (lineMark ++ digits).tail.count ' ' = 1 := by
      rw [List.tail_append_of_ne_nil (by decide), List.count_append, List.count_eq_zero.2 hs]
      decide
    have hle : lineMark.count ' ' ≤ (lineMark ++ digits).tail.count ' ' := h.sublist.count_le ' '
    rw [hc] at hle
    exact absurd hle (by decide)
  rw [stripLine, cutLast?_append (by decide) hm]
  simp [hd]

/-- Only a line number behind its mark is taken off a path. -/
theorem stripLine_eq_self_iff : stripLine path = path ↔ ¬ EndsInLine path := by
  constructor
  · rintro h ⟨front, digits, hd, rfl⟩
    rw [stripLine_append hd, List.self_eq_append_right] at h
    exact absurd (List.append_eq_nil_iff.1 h).1 (by decide)
  · intro h
    rw [stripLine]
    split
    · rfl
    · next before digits hc =>
      have hp : path = before ++ (lineMark ++ digits) := by
        rw [cutLast?_eq_append hc, List.append_assoc]
      exact if_neg fun hd => h ⟨before, digits, hd, hp⟩

/-- What a path is with the home directory in place of a tilde. Without a home, and where nothing
begins with a tilde and a slash, it is the path itself. -/
inductive Expands (home : Option Text) : Text → Text → Prop where
  | tilde {base rest : Text} (hh : home = some base) :
    Expands home ("~/".toList ++ rest) (Path.join base rest)
  | itself {path : Text} (hp : home = none ∨ ¬ "~/".toList <+: path) : Expands home path path

/-- The paths that the relation allows are the ones that the expansion gives. -/
theorem expands_iff {home : Option Text} {file : Text} :
    Expands home path file ↔ expandHome home path = file := by
  constructor
  · rintro (⟨rfl⟩ | ⟨hp⟩)
    · simp only [expandHome, isPrefixOf?_append]
    · rw [expandHome]
      rintro rest base hs rfl
      rcases hp with hp | hp
      · cases hp
      · exact hp ⟨rest, List.append_eq_of_isPrefixOf?_eq_some hs⟩
  · rintro rfl
    unfold expandHome
    split
    · next rest base hs =>
      rw [← List.append_eq_of_isPrefixOf?_eq_some hs]
      exact .tilde rfl
    · next hn =>
      refine .itself (or_iff_not_imp_left.2 fun hh hp => ?_)
      obtain ⟨base, rfl⟩ := Option.ne_none_iff_exists'.1 hh
      obtain ⟨rest, rfl⟩ := hp
      exact hn rest base (isPrefixOf?_append _ _) rfl

end Place

namespace Origin
variable (home : Option Text)

def atLine (origin : Origin) (digits : Text) (hd : isDigits digits = true) : Origin where
  indent := origin.indent
  place := origin.place ++ (lineMark ++ digits)
  blank := origin.blank
  single := by
    have hs := origin.single
    have hm : '\n' ∉ lineMark := by decide
    simp_all [notMem_of_isDigits hd (c := '\n') (by decide)]

private theorem sourceFile?_line (origin : Origin) :
    sourceFile? home origin.line = some (expandHome home (stripLine origin.place)) := by
  have ht : trimStart origin.line = sourceMark ++ origin.place := by
    rw [trimStart, line, List.dropWhile_append_of_pos origin.blank]
    rfl
  rw [sourceFile?, ht, isPrefixOf?_append, Option.map_some]

private theorem getLast?_atLine (origin : Origin) {digits : Text} (hd : isDigits digits = true) :
    (origin.atLine digits hd).place.getLast? ≠ some '\r' := by
  have hr : '\r' ∉ digits := notMem_of_isDigits hd (by decide)
  have hne : digits ≠ [] := (isDigits_iff.1 hd).1
  rw [atLine, List.getLast?_append, List.getLast?_append, List.getLast?_eq_some_getLast hne]
  intro h
  exact hr (Option.some.inj h ▸ List.getLast_mem hne)

private theorem dropReturn_line {origin : Origin} (h : origin.place.getLast? ≠ some '\r') :
    dropReturn origin.line = origin.line := by
  have hm : sourceMark.getLast? = some ' ' := by decide
  apply dropReturn_of_getLast?_ne
  rw [line, List.getLast?_append, List.getLast?_append, hm]
  cases hl : origin.place.getLast? with
  | none => simp
  | some c => simpa [hl] using h

end Origin

/-- A line of a body: it begins with its number, or it ends the function. -/
inductive BodyLine : Text → Prop where
  | numbered {digits text : Text} (hd : isDigits digits = true) (hs : '\n' ∉ text) :
    BodyLine (digits ++ text)
  | ending : BodyLine ending

namespace BodyLine
variable {line : Text} (home : Option Text)

private theorem ne_nil_and_notMem (h : BodyLine line) : line ≠ [] ∧ '\n' ∉ line := by
  cases h with
  | @numbered digits text hd hs =>
    have hf : '\n' ∉ digits := notMem_of_isDigits hd (by decide)
    exact ⟨List.append_ne_nil_of_left_ne_nil (isDigits_iff.1 hd).1 text, by simp [hs, hf]⟩
  | ending => decide

/-- A digit begins neither white space nor a source file. -/
theorem sourceFile?_digit {d : Char} (hd : d.isDigit = true) (rest : Text) :
    sourceFile? home (d :: rest) = none := by
  have hb : isBlank d = false := by
    rw [← Bool.not_eq_true]
    intro hb
    rw [isDigit_eq_false_of_isBlank hb] at hd
    cases hd
  have hm : ¬ sourceMark <+: d :: rest := by
    rintro ⟨more, he⟩
    obtain rfl : 'L' = d := (List.cons.inj he).1
    cases hd
  rw [sourceFile?, trimStart, List.dropWhile_cons_of_neg (by simp [hb]),
    isPrefixOf?_eq_none_iff.2 hm, Option.map_none]

private theorem sourceFile?_eq_none (h : BodyLine line) :
    sourceFile? home line = none ∧ sourceFile? home (dropReturn line) = none := by
  cases h with
  | @numbered digits text hd hs =>
    obtain ⟨hne, hd⟩ := isDigits_iff.1 hd
    obtain ⟨d, more, rfl⟩ := List.exists_cons_of_ne_nil hne
    have hdigit : d.isDigit = true := hd d List.mem_cons_self
    have hr : d ≠ '\r' := by
      rintro rfl
      cases hdigit
    refine ⟨sourceFile?_digit home hdigit _, ?_⟩
    rw [List.cons_append, ← List.nil_append (d :: _), dropReturn_append_cons hr]
    exact sourceFile?_digit home hdigit _
  | ending => exact ⟨rfl, rfl⟩

end BodyLine

/-- A function as it is listed, but for its origin. -/
structure Sheet where
  header : Text
  body : List Text
  header_ne_nil : header ≠ []
  header_single : '\n' ∉ header
  body_lines : ∀ line ∈ body, BodyLine line

namespace Sheet
variable (s : Sheet) (home : Option Text) (before after : Nat)

def below (origin : Option Origin) : List Text :=
  origin.toList.map Origin.line ++ s.body

def write (origin : Option Origin) (before after : Nat) : Text :=
  List.replicate before '\n' ++
    (join ['\n'] (s.header :: s.below origin) ++ List.replicate after '\n')

variable {s}

private theorem ne_nil_and_notMem_of_mem_below {origin : Option Origin} {line : Text}
    (h : line ∈ s.below origin) : line ≠ [] ∧ '\n' ∉ line := by
  rcases List.mem_append.1 h with h | h
  · obtain ⟨o, -, rfl⟩ := List.mem_map.1 h
    exact ⟨o.line_ne_nil, o.notMem_line⟩
  · exact (s.body_lines line h).ne_nil_and_notMem

variable (s)

/-- The second line keeps a carriage return only when it is the last one. -/
theorem lines_parse_write_one (origin : Option Origin) :
    (parse home (s.write origin before after)).lines[1]? = (s.below origin).head? ∨
      (parse home (s.write origin before after)).lines[1]? =
        (s.below origin).head?.map dropReturn := by
  rw [parse, write]
  have hb {line : Text} (h : line ∈ s.below origin) := ne_nil_and_notMem_of_mem_below h
  rcases List.eq_nil_or_concat (s.below origin) with hs | ⟨front, last, hs⟩
  · have hl := lines_trimFeeds_join [] (by simp) s.header_single (by simp) s.header_ne_nil
      before after
    rw [List.nil_append] at hl
    simp [hs, hl]
  · rw [List.concat_eq_append] at hs
    rw [hs] at hb ⊢
    have hlast : last ≠ [] ∧ '\n' ∉ last := hb (List.mem_append_right front List.mem_cons_self)
    have hfront : ∀ line ∈ s.header :: front, '\n' ∉ line :=
      List.forall_mem_cons.2 ⟨s.header_single, fun line h => (hb (List.mem_append_left _ h)).2⟩
    have hl := lines_trimFeeds_join (s.header :: front) hfront hlast.2
      (by simpa using s.header_ne_nil) hlast.1 before after
    rw [List.cons_append] at hl
    rw [hl]
    cases front <;> simp

private theorem sourceFile_write_some {origin : Origin} (h : origin.place.getLast? ≠ some '\r') :
    (parse home (s.write (some origin) before after)).sourceFile =
      some (expandHome home (stripLine origin.place)) := by
  have hl : (parse home (s.write (some origin) before after)).lines[1]? = some origin.line := by
    simpa [below, origin.dropReturn_line h] using
      s.lines_parse_write_one home before after (some origin)
  exact (congrArg (Option.bind · (sourceFile? home)) hl).trans (origin.sourceFile?_line home)

private theorem sourceFile_write_none :
    (parse home (s.write none before after)).sourceFile = none := by
  have hb {line : Text} (h : s.body.head? = some line) :=
    (s.body_lines line (List.mem_of_head? h)).sourceFile?_eq_none home
  change (parse home (s.write none before after)).lines[1]?.bind (sourceFile? home) = none
  rw [Option.bind_eq_none_iff]
  intro line hl
  rcases s.lines_parse_write_one home before after none with h | h
  · exact (hb (h.symm.trans hl)).1
  · obtain ⟨whole, hw, rfl⟩ := Option.map_eq_some_iff.1 (h.symm.trans hl)
    exact (hb hw).2

/-- A dump has the path of its origin as its source file, with a line number behind the path or
without one, unless the path itself ends in a line number. A function from the command line has no
source file. -/
theorem sourceFile_write :
    (∀ (origin : Origin) (digits : Text) (hd : isDigits digits = true),
      (parse home (s.write (some (origin.atLine digits hd)) before after)).sourceFile =
        some (expandHome home origin.place)) ∧
    (∀ origin : Origin, ¬ EndsInLine origin.place → origin.place.getLast? ≠ some '\r' →
      (parse home (s.write (some origin) before after)).sourceFile =
        some (expandHome home origin.place)) ∧
    (parse home (s.write none before after)).sourceFile = none ∧
    ∀ path file, expandHome home path = file ↔ Expands home path file := by
  refine ⟨fun origin digits hd => ?_, fun origin hp hr => ?_, s.sourceFile_write_none home _ _,
    fun path file => expands_iff.symm⟩
  · rw [s.sourceFile_write_some home before after (origin.getLast?_atLine hd)]
    exact congrArg (some <| expandHome home ·) (stripLine_append hd)
  · rw [s.sourceFile_write_some home before after hr, stripLine_eq_self_iff.2 hp]

/-- A body that imitates an origin, below a header that ends in a carriage return. -/
private def imitating : Sheet where
  header := "   function G(x)\r".toList
  body := ["1  Last set from /b line 2\r".toList, "   endfunction".toList]
  header_ne_nil := by decide
  header_single := by decide
  body_lines := by
    have h1 : BodyLine "1  Last set from /b line 2\r".toList :=
      @BodyLine.numbered ['1'] "  Last set from /b line 2\r".toList rfl (by decide)
    exact List.forall_mem_cons.2 ⟨h1, List.forall_mem_cons.2 ⟨.ending, List.forall_mem_nil _⟩⟩

private def marked : Origin where
  indent := "\t\u00a0".toList
  place := "~/my line 3 line b".toList
  blank := List.all_eq_true.1 (by decide)
  single := by decide

theorem sourceFile_write_imitated :
    imitating.write (some (marked.atLine "12".toList rfl)) 1 0 =
      ("\n   function G(x)\r\n\t\u00a0Last set from ~/my line 3 line b line 12\n" ++
        "1  Last set from /b line 2\r\n   endfunction").toList ∧
    isDigits "12".toList = true ∧ ¬ EndsInLine marked.place ∧ marked.place.getLast? ≠ some '\r' ∧
    (parse (some "/h".toList)
      (imitating.write (some (marked.atLine "12".toList rfl)) 1 0)).sourceFile =
        some "/h/my line 3 line b".toList ∧
    (parse (some "/h".toList) (imitating.write (some marked) 1 0)).sourceFile =
      some "/h/my line 3 line b".toList ∧
    (parse (some "/h".toList) (imitating.write none 1 0)).sourceFile = none := by
  have he : expandHome (some "/h".toList) marked.place = "/h/my line 3 line b".toList := by
    decide +kernel
  have hp : ¬ EndsInLine marked.place := stripLine_eq_self_iff.1 (by decide +kernel)
  have hr : marked.place.getLast? ≠ some '\r' := by decide
  have h := imitating.sourceFile_write (some "/h".toList) 1 0
  rw [← he]
  exact ⟨by decide +kernel, rfl, hp, hr, h.1 marked "12".toList rfl, h.2.1 marked hp hr, h.2.2.1⟩

end Sheet
end ScriptTrace.Dump
