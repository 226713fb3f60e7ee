import ScriptTrace.Proofs.Throwpoint.Canonical

/-! The shapes in which one throwpoint comes, and that they all lead back to it.
The innermost line stands in brackets behind its place, after a comma, or on a line of its own. -/
namespace ScriptTrace.Throwpoint
open Text

def chainPlace : List Link → Text
  | [] => []
  | [last] => last.body
  | link :: next :: rest => link.display ++ (chainMark ++ chainPlace (next :: rest))

def place : Throwpoint → Text
  | function links => functionMark ++ chainPlace links
  | file link => link.body

def lineNumber (t : Throwpoint) : Nat :=
  t.links.getLast?.elim 0 Link.line

/-- Nothing in the names or in the path of a throwpoint is taken for a mark. -/
def Plain : Throwpoint → Prop
  | function links => links ≠ [] ∧ ∀ link ∈ links, link.line < wordLimit ∧
      ¬ chainMark <:+: link.body ∧ ¬ liveMark <:+: link.body ∧ ¬ blockMark <:+: link.body
  | file link => link.line < wordLimit ∧ ¬ functionMark <+: link.body ∧
      ¬ headerMark <+: link.body ∧ ¬ liveMark <:+: link.body ∧ ¬ blockMark <:+: link.body

/-- How a line follows its place. -/
inductive Shape where
  | canonical
  | live
  /-- On a line of its own, with spaces before the number and white space after its colon. -/
  | block (spaces : Nat) (tail : Text) (blank : ∀ c ∈ tail, isBlank c = true)

def Shape.write (place line : Text) : Shape → Text
  | canonical => bracketed place line
  | live => place ++ (liveMark ++ line)
  | block spaces tail _ =>
    place ++ (blockMark ++ (List.replicate spaces ' ' ++ (line ++ ':' :: tail)))

def headed : Nat → Text → Text
  | 0, s => s
  | m + 1, s => headerMark ++ headed m s

section Headers

theorem stripHeaders_headed (m : Nat) (s : Text) : stripHeaders (headed m s) = stripHeaders s := by
  induction m with
  | zero => rfl
  | succ m ih => rw [headed, stripHeaders_append, ih]

/-- Any number of headers is taken away first. -/
theorem normalize_headed (m : Nat) (s : Text) : normalize (headed m s) = normalize s := by
  rw [normalize, normalize, stripHeaders_headed]

end Headers

section Display
variable {t : Throwpoint}

private theorem bracketed_chainPlace {links : List Link} (hne : links ≠ []) :
    bracketed (chainPlace links) (decimal (lineNumber (.function links))) =
      join chainMark (links.map Link.display) := by
  fun_induction chainPlace links with
  | case1 => exact absurd rfl hne
  | case2 last =>
    rw [List.map_singleton, join, List.intercalate_singleton]
    rfl
  | case3 link next rest ih =>
    have hr := ih (List.cons_ne_nil next rest)
    have hl : lineNumber (.function (link :: next :: rest)) =
        lineNumber (.function (next :: rest)) := by
      simp [lineNumber, Throwpoint.links]
    rw [List.map_cons, join] at hr
    rw [List.map_cons, List.map_cons, join, List.intercalate_cons_cons, ← hr, hl]
    simp [bracketed]

private theorem display_eq (h : t.Plain) :
    t.display = bracketed t.place (decimal t.lineNumber) := by
  cases t with
  | function links =>
    rw [display, ← bracketed_chainPlace h.1, place]
    simp [bracketed]
  | file link => rfl

theorem Plain.canonical (h : t.Plain) : t.Canonical := by
  cases t with
  | function links => exact ⟨h.1, fun link hm => ⟨(h.2 link hm).1, (h.2 link hm).2.1⟩⟩
  | file link => exact ⟨h.1, h.2.1⟩

/-- A plain throwpoint is read back from its text. -/
theorem parse?_display (h : t.Plain) : parse? t.display = some t :=
  parse?_display_of_canonical h.canonical

end Display

section Place

private theorem occurrences_chainPlace {mark : Text} {c : Char} (hm : mark.head? = some c)
    (hc : c.isDigit = false) (ho : '[' ∉ mark) (he : ']' ∉ mark) (hdot : '.' ∉ mark)
    {links : List Link} (h : ∀ link ∈ links, occurrences mark link.body = 0) :
    occurrences mark (chainPlace links) = 0 := by
  have hmem : c ∈ mark := List.mem_of_mem_head? hm
  have hne : mark ≠ [] := List.ne_nil_of_mem hmem
  fun_induction chainPlace links with
  | case1 => exact occurrences_nil hne
  | case2 last => exact h last List.mem_cons_self
  | case3 link next rest ih =>
    have hd : occurrences mark link.display = 0 :=
      (occurrences_display hm hc ho he link).trans (h link List.mem_cons_self)
    have hr := ih fun l hl => h l (List.mem_cons_of_mem link hl)
    have hcd : c ∉ ['.'] := fun h => hdot (List.mem_singleton.1 h ▸ hmem)
    rw [show chainMark = '.' :: ['.'] by decide, List.cons_append, occurrences_append_cons hne hdot,
      hd, occurrences_append_of_notMem hm hcd, hr]

private theorem markCount_place {t : Throwpoint} (h : t.Plain) : markCount t.place = 0 := by
  cases t with
  | function links =>
    have hl : occurrences liveMark (chainPlace links) = 0 :=
      occurrences_chainPlace (c := ',') (by decide) (by decide) (by decide) (by decide) (by decide)
        fun link hm => occurrences_eq_zero_iff.2 (h.2 link hm).2.2.1
    have hb : occurrences blockMark (chainPlace links) = 0 :=
      occurrences_chainPlace (c := ':') (by decide) (by decide) (by decide) (by decide) (by decide)
        fun link hm => occurrences_eq_zero_iff.2 (h.2 link hm).2.2.2
    rw [markCount, place, occurrences_append_of_notMem (c := ',') (by decide) (by decide), hl,
      occurrences_append_of_notMem (c := ':') (by decide) (by decide), hb]
  | file link => exact markCount_eq_zero_iff.2 h.2.2.2

private theorem not_header_place {t : Throwpoint} (h : t.Plain) : ¬ headerMark <+: t.place := by
  cases t with
  | function links =>
    intro hp
    have hf := List.prefix_append functionMark (chainPlace links)
    rcases List.prefix_or_prefix_of_prefix hp hf with hq | hq <;> exact absurd hq (by decide)
  | file link => exact h.2.2.1

end Place

section Digits
variable {digits : Text} (hd : isDigits digits = true)
include hd

private theorem markCount_of_isDigits : markCount digits = 0 := by
  have hl : ',' ∉ digits := notMem_of_isDigits hd (by decide)
  have hb : ':' ∉ digits := notMem_of_isDigits hd (by decide)
  exact markCount_eq_zero_iff.2
    ⟨fun h => hl (h.subset (by decide)), fun h => hb (h.subset (by decide))⟩

private theorem blockNumber_padded {tail : Text} (spaces : Nat)
    (ht : ∀ c ∈ tail, isBlank c = true) :
    blockNumber (List.replicate spaces ' ' ++ (digits ++ ':' :: tail)) = digits := by
  have hdrop : digits.dropWhile (· == ' ') = digits := by
    cases digits with
    | nil => rfl
    | cons c rest =>
      have hs : ' ' ∉ c :: rest := notMem_of_isDigits hd (by decide)
      have hc : c ≠ ' ' := fun he => hs (he ▸ List.mem_cons_self)
      exact List.dropWhile_cons_of_neg (by simpa using hc)
  rw [blockNumber, ← List.append_assoc, trimEnd_append (by decide) ht, dropEnd_append,
    List.dropWhile_append_of_pos (by simp), hdrop]

end Digits

section Written
variable {place line : Text} (hm : markCount place = 0) (hp : ¬ headerMark <+: place)
include hp

theorem stripHeaders_append_cons {c : Char} (hc : c ∉ headerMark) (rest : Text) :
    stripHeaders (place ++ c :: rest) = place ++ c :: rest :=
  stripHeaders_eq_self fun h => hp ((prefix_append_cons_iff hc).1 h)

include hm

theorem normalize_live : normalize (place ++ (liveMark ++ line)) = bracketed place line := by
  have hs : stripHeaders (place ++ (liveMark ++ line)) = place ++ (liveMark ++ line) :=
    stripHeaders_append_cons hp (c := ',') (by decide) _
  have hc : cutFirst? liveMark (place ++ (liveMark ++ line)) = some (place, line) :=
    cutFirst?_append (c := ',') (by decide) (by decide) (Nat.eq_zero_of_add_eq_zero_right hm)
  simp only [normalize, hs, hc]

theorem normalize_block {rest : Text} (hr : ',' ∉ rest) :
    normalize (place ++ (blockMark ++ rest)) = bracketed place (blockNumber rest) := by
  obtain ⟨hl, hb⟩ := Nat.add_eq_zero_iff.1 hm
  have hs : stripHeaders (place ++ (blockMark ++ rest)) = place ++ (blockMark ++ rest) :=
    stripHeaders_append_cons hp (c := ':') (by decide) _
  -- A live mark would be found first, but it has no colon and begins with a comma.
  have hn : cutFirst? liveMark (place ++ (blockMark ++ rest)) = none := by
    have hz : occurrences liveMark ("\nline".toList ++ rest) = 0 :=
      occurrences_eq_zero_iff.2 fun h =>
        absurd (h.subset (List.mem_of_mem_head? (a := ',') rfl)) (by simp [hr])
    rw [cutFirst?_eq_none_iff, show blockMark = ':' :: "\nline".toList by decide, List.cons_append,
      occurrences_append_cons (by decide) (by decide), hl, hz]
  have hc : cutFirst? blockMark (place ++ (blockMark ++ rest)) = some (place, rest) :=
    cutFirst?_append (c := ':') (by decide) (by decide) hb
  simp only [normalize, hs, hn, hc]

/-- In each shape a place and its line come to the same brackets. -/
theorem normalize_write (hd : isDigits line = true) (shape : Shape) :
    normalize (shape.write place line) = bracketed place line := by
  cases shape with
  | canonical =>
    have hb : ¬ headerMark <+: bracketed place line :=
      fun h => hp ((prefix_bracketed_iff (by decide)).1 h)
    refine normalize_of_markCount_eq_zero hb ?_
    rw [Shape.write, markCount_bracketed, hm, markCount_of_isDigits hd]
  | live => exact normalize_live hm hp
  | block spaces tail blank =>
    have hcomma : ',' ∉ List.replicate spaces ' ' ++ (line ++ ':' :: tail) := by
      have ht : ',' ∉ tail := fun h => absurd (blank ',' h) (by decide)
      have hl : ',' ∉ line := notMem_of_isDigits hd (by decide)
      simp [ht, hl]
    rw [Shape.write, normalize_block hm hp hcomma, blockNumber_padded hd spaces blank]

end Written

/-- Whatever its shape and however many headers stand before it, a throwpoint is brought into its
canonical text, and nothing of it is lost there. -/
theorem normalize_headed_write {t : Throwpoint} (h : t.Plain) (m : Nat) (shape : Shape) :
    normalize (headed m (shape.write t.place (decimal t.lineNumber))) =
        bracketed t.place (decimal t.lineNumber) ∧
      parse? (bracketed t.place (decimal t.lineNumber)) = some t := by
  constructor
  · rw [normalize_headed]
    exact normalize_write (markCount_place h) (not_header_place h) (isDigits_decimal _) shape
  · rw [← display_eq h]
    exact parse?_display h

private def oddNames : Throwpoint :=
  .function [⟨"a[1]: .".toList, 3⟩, ⟨[], 0⟩, ⟨".b\nline,".toList, 18446744073709551615⟩]

theorem normalize_headed_write_odd_names :
    oddNames.Plain ∧
    normalize (headed 2
        "function a[1]: .[3]..[0]...b\nline,:\nline   18446744073709551615:\u00a0\n".toList) =
      "function a[1]: .[3]..[0]...b\nline,[18446744073709551615]".toList ∧
    parse? "function a[1]: .[3]..[0]...b\nline,[18446744073709551615]".toList = some oddNames := by
  have h : oddNames.Plain := by
    unfold oddNames Plain
    decide +kernel
  have hblank : ∀ c ∈ "\u00a0\n".toList, isBlank c = true := List.all_eq_true.1 (by decide)
  have hw : (Shape.block 3 _ hblank).write oddNames.place (decimal oddNames.lineNumber) =
      "function a[1]: .[3]..[0]...b\nline,:\nline   18446744073709551615:\u00a0\n".toList := by
    rw [Shape.write]
    decide +kernel
  have hb : bracketed oddNames.place (decimal oddNames.lineNumber) =
      "function a[1]: .[3]..[0]...b\nline,[18446744073709551615]".toList := by
    decide +kernel
  obtain ⟨hn, hp⟩ := normalize_headed_write h 2 (.block 3 _ hblank)
  rw [hw, hb] at hn
  rw [hb] at hp
  exact ⟨h, hn, hp⟩

end ScriptTrace.Throwpoint
